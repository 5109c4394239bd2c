import QueryGuard.Proofs.Pattern.Locality
import QueryGuard.Proofs.Query.EngineText
import QueryGuard.Proofs.Query.WordPair

/-!
# QueryGuard.Proofs.Query.Projection

Reads of some columns of one table.

Such a read is a row of names with blanks and commas between them.  What is sought across neither is
found in one of the names (`SoughtInNames.not_occursIn`); of two words that are sought with blanks
between, one would have to be the fixed `SELECT` or `FROM` (`not_occurs_projection`); and the marks
of comments, calls and statements do not stand in the read at all (`not_occursIn_of_needs`).

So the gate accepts the read up to its length, whatever words the names hold as proper parts
(`judge_projection`).
-/

namespace QueryGuard.Query

open Text Pattern

/-! ## names -/

/-- An ASCII letter or an underscore, and then ASCII letters, digits and underscores. -/
def isAsciiName : List Char → Bool
  | [] => false
  | c :: name => (c.isAlpha || c == '_') && name.all fun d => d.isAlphanum || d == '_'

/-- A name that stands for itself in a query: it is no word that the gate knows, does not begin like
a system procedure, and does not hold the name of a remote source. -/
structure Mentionable (name : List Char) : Prop where
  ascii : isAsciiName name = true
  noKeyword : ∀ word ∈ deniedKeywords ++ userNames, ¬ Spells word name
  noProcedure : ∀ mark ∈ ["sp_", "xp_"], ¬ mark.toList <+: name.map Char.toLower
  noRemote : ∀ word ∈ ["openrowset", "opendatasource"],
    ¬ word.toList <:+: name.map Char.toLower

instance (name : List Char) : Decidable (Mentionable name) :=
  decidable_of_iff
    (isAsciiName name = true ∧ (∀ word ∈ deniedKeywords ++ userNames, ¬ Spells word name) ∧
      (∀ mark ∈ ["sp_", "xp_"], ¬ mark.toList <+: name.map Char.toLower) ∧
      ∀ word ∈ ["openrowset", "opendatasource"], ¬ word.toList <:+: name.map Char.toLower)
    ⟨fun h => ⟨h.1, h.2.1, h.2.2.1, h.2.2.2⟩, fun h => ⟨h.1, h.2, h.3, h.4⟩⟩

/-- A read of some columns of a table. -/
def projection (columns : List (List Char)) (table : List Char) : List Char :=
  "SELECT ".toList ++ ", ".toList.intercalate columns ++ " FROM ".toList ++ table

variable {columns : List (List Char)} {table name : List Char} {p : Pattern} {x : Char}

theorem asciiJoins_of_isAsciiName (h : isAsciiName name = true) :
    ∀ c ∈ name, asciiJoins (some c) = true := by
  cases name with
  | nil => simp
  | cons d name =>
      rw [isAsciiName, Bool.and_eq_true, List.all_eq_true] at h
      refine List.forall_mem_cons.mpr ⟨?_, h.2⟩
      obtain letter | underscore := Bool.or_eq_true_iff.mp h.1
      · simp [asciiJoins, Char.isAlphanum, letter]
      · simp [asciiJoins, underscore]

theorem Mentionable.isIdentifier (h : Mentionable name) : ∀ c ∈ name, isIdentifier c = true :=
  fun c hc => isIdentifier_of_asciiJoins (asciiJoins_of_isAsciiName h.ascii c hc)

/-- A name that may be mentioned has no blank. -/
theorem Mentionable.noBlank (h : Mentionable name) : ∀ c ∈ name, isBlank c = false := by
  intro c hc
  rw [Bool.eq_false_iff]
  intro blank
  have inName := h.isIdentifier c hc
  rw [isIdentifier_of_isBlank blank] at inName
  contradiction

theorem Mentionable.map_fold (h : Mentionable name) : name.map fold = name.map Char.toLower :=
  List.map_congr_left fun c hc => fold_of_asciiJoins (asciiJoins_of_isAsciiName h.ascii c hc)

/-! ## one name -/

/-- No word that the gate knows stands by itself in a name. -/
theorem Mentionable.not_standsIn (h : Mentionable name) {word : String}
    (known : word ∈ deniedKeywords ++ userNames) : ¬ StandsIn word name := by
  intro stands
  have full : ∀ c ∈ name, isNameChar c = true := by
    intro c hc
    rw [← isIdentifier_eq_isNameChar]
    exact h.isIdentifier c hc
  have spelled := isCaseForm_iff_foldEq.mp ((standsIn_run_iff full).mp stands)
  have ascii : ∀ word ∈ deniedKeywords ++ userNames,
      (word.toList.all fun c => asciiJoins (some c)) = true := by
    decide +kernel
  exact h.noKeyword word known (spells_of_foldEq (List.all_eq_true.mp (ascii word known))
    (asciiJoins_of_isAsciiName h.ascii) spelled)

/-- The name of a remote source does not stand in a name. -/
theorem Mentionable.not_holds (h : Mentionable name) {word : String}
    (remote : word ∈ ["OPENROWSET", "OPENDATASOURCE"]) : ¬ Holds word name := by
  rw [holds_iff_infix_fold, h.map_fold]
  obtain rfl | rfl : word = "OPENROWSET" ∨ word = "OPENDATASOURCE" := by simpa using remote
  · exact h.noRemote "openrowset" (by decide)
  · exact h.noRemote "opendatasource" (by decide)

/-- A word is found in a text exactly if the text holds it. -/
theorem occursIn_text_iff {word : String} {s : List Char} :
    (text word).occursIn s = true ↔ Holds word s := by
  rw [occursIn_iff]
  simp only [matches_text_iff, Holds]
  constructor
  · intro h
    obtain ⟨a, k, b, rfl, spelled⟩ := h
    exact ⟨k, spelled, a, b, rfl⟩
  · intro h
    obtain ⟨k, spelled, a, b, rfl⟩ := h
    exact ⟨a, k, b, rfl, spelled⟩

/-- In a run of word characters the mark of a system procedure is found only at the start. -/
theorem exists_prefix_of_hasShape {s : List Char} (full : ∀ c ∈ s, isWord c = true)
    (h : hasShape .procedurePrefix s = true) :
    ∃ mark ∈ ["sp_", "xp_"], mark.toList <+: s.map fold := by
  rw [hasShape, occursIn_iff] at h
  simp only [Shape.pattern, matches_inRow_cons, matches_inRow_nil_iff, matches_seq_iff,
    matches_edge_iff, matches_oneOf_iff, matches_text_iff] at h
  obtain ⟨before, _, after, rfl, _, _, rfl, ⟨rfl, differ⟩, first, _, rfl, ⟨mark, mem, spelled⟩,
    second, _, rfl, underscore, rfl⟩ := h
  have nonempty : first ≠ [] := by
    rintro rfl
    revert mark
    decide
  obtain ⟨d, first, rfl⟩ := List.exists_cons_of_ne_nil nonempty
  have atStart : before = [] := by
    cases last : before.getLast? with
    | none => exact List.getLast?_eq_none_iff.mp last
    | some c =>
        have inWord := full c (List.mem_append_left _ (List.mem_append_left _
          (List.mem_of_getLast? last)))
        have goesOn := full d (by simp)
        simp [last, CharClass.hasAt, CharClass.has, inWord, goesOn] at differ
  subst atStart
  have sp_or_xp : mark = "sp" ∨ mark = "xp" := by simpa using mem
  have both : (d :: first ++ second).map fold = (mark ++ "_").toList := by
    rw [List.map_append, spelled, underscore]
    obtain rfl | rfl := sp_or_xp
    · rfl
    · rfl
  have listed : mark ++ "_" ∈ ["sp_", "xp_"] := by
    obtain rfl | rfl := sp_or_xp
    · decide
    · decide
  exact ⟨mark ++ "_", listed, after.map fold, by rw [← both]; simp⟩

/-! ## the row of names -/

/-- A projection is four parts with spaces between them. -/
theorem projection_eq (columns : List (List Char)) (table : List Char) :
    projection columns table = "SELECT".toList ++
      ' ' :: (", ".toList.intercalate columns ++ ' ' :: ("FROM".toList ++ ' ' :: table)) := by
  calc projection columns table
    _ = "SELECT".toList ++ [' '] ++ ", ".toList.intercalate columns ++
          (' ' :: ("FROM".toList ++ [' '])) ++ table := rfl
    _ = _ := by simp only [List.append_assoc, List.cons_append, List.nil_append]

theorem intercalate_comma_cons (d : List Char) (ds : List (List Char)) :
    ", ".toList.intercalate (name :: d :: ds) =
      name ++ ',' :: ' ' :: ", ".toList.intercalate (d :: ds) := by
  simp [List.intercalate_cons_cons]

/-- The characters of the read are those of names, blanks and commas. -/
theorem notMem_projection (named : ∀ name ∈ table :: columns, Mentionable name)
    (other : isIdentifier x = false) (full : x ≠ ' ') (noComma : x ≠ ',') :
    x ∉ projection columns table := by
  have notIn : ∀ name : List Char, (∀ c ∈ name, isIdentifier c = true) → x ∉ name := by
    intro name all hx
    rw [all x hx] at other
    contradiction
  obtain ⟨hTable, hColumns⟩ := List.forall_mem_cons.mp named
  have selectName : IsName "SELECT" := by decide
  have fromName : IsName "FROM" := by decide
  have inSelect := notIn _ selectName.2
  have inFrom := notIn _ fromName.2
  have inTable := notIn table hTable.isIdentifier
  have inColumns : x ∉ ", ".toList.intercalate columns := by
    intro hx
    obtain inSep | ⟨name, mem, inName⟩ := mem_of_mem_intercalate hx
    · obtain rfl | rfl : x = ',' ∨ x = ' ' := by simpa using inSep
      · exact noComma rfl
      · exact full rfl
    · exact notIn name (hColumns name mem).isIdentifier inName
  rw [projection_eq]
  simp only [List.mem_append, List.mem_cons, full, inSelect, inFrom, inTable, inColumns, or_self,
    not_false_eq_true]

/-- A pattern that looks neither across blanks nor across commas and is not found in the fixed words
of the read. -/
structure SoughtInNames (p : Pattern) : Prop where
  space : p.ignores ' ' = true
  comma : p.ignores ',' = true
  fixed : ∀ word ∈ ["", "SELECT", "FROM"], p.occursIn word.toList = false

instance (p : Pattern) : Decidable (SoughtInNames p) :=
  decidable_of_iff
    (p.ignores ' ' = true ∧ p.ignores ',' = true ∧
      ∀ word ∈ ["", "SELECT", "FROM"], p.occursIn word.toList = false)
    ⟨fun h => ⟨h.1, h.2.1, h.2.2⟩, fun h => ⟨h.1, h.2, h.3⟩⟩

/-- What is sought in names and found in none is not in the list of them. -/
theorem SoughtInNames.not_occursIn_intercalate (sought : SoughtInNames p)
    (names : ∀ name ∈ columns, p.occursIn name = false) :
    p.occursIn (", ".toList.intercalate columns) = false := by
  have empty := sought.fixed "" (by decide)
  induction columns with
  | nil => exact empty
  | cons d ds ih =>
      obtain ⟨first, rest⟩ := List.forall_mem_cons.mp names
      cases ds with
      | nil => simpa [List.intercalate_singleton] using first
      | cons e ds =>
          rw [intercalate_comma_cons, Bool.eq_false_iff, ne_eq, occursIn_append_cons sought.comma,
            ← List.nil_append (' ' :: _), occursIn_append_cons sought.space, first, ih rest]
          simpa using empty

/-- Such a pattern is found in the read only if it is found in one of the names. -/
theorem SoughtInNames.not_occursIn (sought : SoughtInNames p)
    (names : ∀ name ∈ table :: columns, p.occursIn name = false) :
    p.occursIn (projection columns table) = false := by
  obtain ⟨inTable, inColumns⟩ := List.forall_mem_cons.mp names
  rw [projection_eq, Bool.eq_false_iff, ne_eq, occursIn_append_cons sought.space,
    occursIn_append_cons sought.space, occursIn_append_cons sought.space, inTable,
    sought.fixed "SELECT" (by decide), sought.fixed "FROM" (by decide),
    sought.not_occursIn_intercalate inColumns]
  simp

/-- The pairs of words that the gate looks for with blanks between them. -/
def partedPairs : List WordPair := [bulkPair, waitPair, unionPair]

variable {pair : WordPair}

theorem parted_of_mem (h : pair ∈ partedPairs) : pair.parted = true := by
  have all : ∀ pair ∈ partedPairs, pair.parted = true := by decide
  exact all pair h

theorem avoids_of_mem (h : pair ∈ partedPairs) :
    pair.avoids ' ' = true ∧ pair.avoids ',' = true := by
  have all : ∀ pair ∈ partedPairs, pair.avoids ' ' = true ∧ pair.avoids ',' = true := by decide
  exact all pair h

/-- The fixed words hold no first word of a pair. -/
theorem not_occurs_fixed (h : pair ∈ partedPairs) (word : String)
    (fixed : word ∈ ["", "SELECT", "FROM"]) :
    ¬ (pair.Occurs word.toList ∨ pair.Ends word.toList) := by
  have none : ∀ pair ∈ partedPairs, ∀ fixed ∈ ["", "SELECT", "FROM"], ∀ word ∈ pair.firsts,
      ¬ Holds word fixed.toList := by
    decide +kernel
  intro first
  obtain ⟨word', mem, holds⟩ := WordPair.exists_holds first
  exact none pair h word fixed word' mem holds

/-- Words that are parted by blanks do not stand in a list of names. -/
theorem not_occurs_intercalate (h : pair ∈ partedPairs)
    (noBlank : ∀ name ∈ columns, ∀ c ∈ name, isBlank c = false) :
    ¬ pair.Occurs (", ".toList.intercalate columns) := by
  obtain ⟨space, comma⟩ := avoids_of_mem h
  have empty := not_occurs_fixed h "" (by decide)
  induction columns with
  | nil => exact fun occurs => empty (.inl occurs)
  | cons d ds ih =>
      obtain ⟨first, rest⟩ := List.forall_mem_cons.mp noBlank
      have notFirst := WordPair.not_occurs_of_noBlank (parted_of_mem h) first
      cases ds with
      | nil => simpa [List.intercalate_singleton] using notFirst
      | cons e ds =>
          rw [intercalate_comma_cons]
          intro occurs
          obtain here | later | ⟨blank, -⟩ :=
            WordPair.occurs_of_append_cons comma (by decide) occurs
          · exact notFirst here
          · obtain none | later | ⟨-, ends, -⟩ :=
              WordPair.occurs_of_append_cons (s := []) space (by decide) later
            · exact empty (.inl none)
            · exact ih rest later
            · exact empty (.inr ends)
          · exact absurd blank (by decide)

/-- No two words that are sought with blanks between stand so in the read. -/
theorem not_occurs_projection (named : ∀ name ∈ table :: columns, Mentionable name)
    (h : pair ∈ partedPairs) : ¬ pair.Occurs (projection columns table) := by
  obtain ⟨space, -⟩ := avoids_of_mem h
  have inSelect := not_occurs_fixed h "SELECT" (by decide)
  have inFrom := not_occurs_fixed h "FROM" (by decide)
  obtain ⟨tableBlank, columnsBlank⟩ := List.forall_mem_cons.mp fun name mem =>
    (named name mem).noBlank
  have seconds : ∀ pair ∈ partedPairs, pair.seconds.all beginsFull = true ∧
      some 'f' ∉ pair.seconds.map fun word => word.toList.head?.map fold := by
    decide +kernel
  obtain ⟨full, noneBegins⟩ := seconds pair h
  rw [projection_eq]
  intro occurs
  obtain here | later | ⟨-, ends, -⟩ := WordPair.occurs_of_append_cons space (by decide) occurs
  · exact inSelect (.inl here)
  · obtain here | later | ⟨-, -, begins⟩ := WordPair.occurs_of_append_cons space (by decide) later
    · exact not_occurs_intercalate h columnsBlank here
    · obtain here | later | ⟨-, ends, -⟩ := WordPair.occurs_of_append_cons space (by decide) later
      · exact inFrom (.inl here)
      · exact WordPair.not_occurs_of_noBlank (parted_of_mem h) tableBlank later
      · exact inFrom (.inr ends)
    · exact noneBegins (WordPair.firstLetter_mem_of_begins full begins)
  · exact inSelect (.inr ends)

/-! ## the rules one by one -/

section Rules

variable (named : ∀ name ∈ table :: columns, Mentionable name)
include named

/-- A projection has none of the keywords. -/
theorem not_hasKeyword_projection {word : String} (known : word ∈ deniedKeywords ++ userNames) :
    hasKeyword word (projection columns table) = false := by
  have sought : ∀ word ∈ deniedKeywords ++ userNames, SoughtInNames (keyword word) := by
    decide +kernel
  refine (sought word known).not_occursIn fun name mem => ?_
  rw [← hasKeyword, Bool.eq_false_iff, ne_eq, hasKeyword_iff_standsIn]
  exact (named name mem).not_standsIn known

/-- The characters by which the gate knows comments, calls, statements and variables. -/
def marks : String := ";-/(@"

/-- A projection holds none of the marks. -/
theorem notMem_of_marks (mark : x ∈ marks.toList) : x ∉ projection columns table := by
  have other : (marks.toList.all fun x => !isIdentifier x && x != ' ' && x != ',') = true := by
    decide
  have apart := List.all_eq_true.mp other x mark
  simp only [Bool.and_eq_true, Bool.not_eq_true', bne_iff_ne] at apart
  exact notMem_projection named apart.1.1 apart.1.2 apart.2

/-- A pattern that needs a mark is not found in a projection. -/
theorem not_occursIn_of_needs (mark : x ∈ marks.toList) (need : p.needs x = true) :
    p.occursIn (projection columns table) = false := by
  have noLetter : IsMark marks := by decide
  exact not_occursIn_of_notMem (noLetter x mark) need (notMem_of_marks named mark)

/-- A projection has no marks of comments. -/
theorem commentFree_projection : CommentFree (projection columns table) := by
  have dash : '-' ∉ projection columns table := notMem_of_marks named (by decide)
  have slash : '/' ∉ projection columns table := notMem_of_marks named (by decide)
  exact ⟨fun h => dash (h.subset (by simp)), fun h => slash (h.subset (by simp))⟩

/-- A projection calls nothing. -/
theorem not_callsIn_projection (functions : List String) :
    ¬ CallsIn functions (projection columns table) := by
  have parenthesis : '(' ∉ projection columns table := notMem_of_marks named (by decide)
  intro calls
  obtain ⟨a, call, b, parts, -, rest, gap, rfl, -⟩ := calls
  exact parenthesis (by rw [parts]; simp)

/-- A projection does not name a remote source. -/
theorem not_remote_projection {word : String} (remote : word ∈ ["OPENROWSET", "OPENDATASOURCE"]) :
    (text word).occursIn (projection columns table) = false := by
  have sought : ∀ word ∈ ["OPENROWSET", "OPENDATASOURCE"], SoughtInNames (text word) := by
    decide +kernel
  refine (sought word remote).not_occursIn fun name mem => ?_
  rw [Bool.eq_false_iff, ne_eq, occursIn_text_iff]
  exact (named name mem).not_holds remote

/-- A projection does not name a stored procedure. -/
theorem not_procedurePrefix_projection :
    hasShape .procedurePrefix (projection columns table) = false := by
  have sought : SoughtInNames Shape.procedurePrefix.pattern := by decide +kernel
  refine sought.not_occursIn fun name mem => ?_
  rw [← hasShape, Bool.eq_false_iff]
  intro found
  have full : ∀ c ∈ name, isWord c = true :=
    fun c hc => isWord_of_isIdentifier ((named name mem).isIdentifier c hc)
  obtain ⟨mark, procedure, front⟩ := exists_prefix_of_hasShape full found
  rw [(named name mem).map_fold] at front
  exact (named name mem).noProcedure mark procedure front

/-- A projection has none of the forbidden shapes. -/
theorem not_hasShape_projection (shape : Shape) :
    hasShape shape (projection columns table) = false := by
  have semicolon : ';' ∈ marks.toList := by decide
  have dash : '-' ∈ marks.toList := by decide
  have slash : '/' ∈ marks.toList := by decide
  have parenthesis : '(' ∈ marks.toList := by decide
  have sign : '@' ∈ marks.toList := by decide
  have intoDenied : "INTO" ∈ deniedKeywords := by decide
  have noPair : ∀ pair ∈ partedPairs, ¬ pair.Occurs (projection columns table) :=
    fun pair mem => not_occurs_projection named mem
  cases shape with
  | selectInto =>
      exact not_hasShape_selectInto
        (not_hasKeyword_projection named (List.mem_append_left userNames intoDenied))
  | separatorKeyword => exact not_occursIn_of_needs named semicolon (by decide)
  | unionInjection =>
      rw [Bool.eq_false_iff, ne_eq, hasShape_unionInjection_iff]
      intro found
      exact noPair unionPair (by decide) (unionPair_occurs_of_writesBehindUnion found)
  | lineCommentKeyword => exact not_occursIn_of_needs named dash (by decide)
  | blockCommentKeyword => exact not_occursIn_of_needs named slash (by decide)
  | execCall => exact not_occursIn_of_needs named parenthesis (by decide)
  | procedurePrefix => exact not_procedurePrefix_projection named
  | bulkInsert =>
      rw [Bool.eq_false_iff, ne_eq, hasShape_bulkInsert_iff]
      exact noPair bulkPair (by decide)
  | openRowset => exact not_remote_projection named (by decide)
  | openDatasource => exact not_remote_projection named (by decide)
  | systemVariable => exact not_occursIn_of_needs named sign (by decide)
  | identityFunction =>
      exact not_hasShape_identityFunction
        (fun name user => not_hasKeyword_projection named (List.mem_append_right _ user))
        (not_callsIn_projection named identityFunctions)
  | waitforDelay =>
      rw [Bool.eq_false_iff, ne_eq, hasShape_waitforDelay_iff]
      exact noPair waitPair (by decide)
  | multipleStatements => exact not_occursIn_of_needs named semicolon (by decide)
  | charConcat => exact not_occursIn_of_needs named parenthesis (by decide)

/-- A projection is at most one statement. -/
theorem one_statement_projection : (statements (clean (projection columns table))).length ≤ 1 := by
  have semicolon : ';' ∉ projection columns table := notMem_of_marks named (by decide)
  rw [← Nat.not_lt, one_lt_length_statements_clean (commentFree_projection named),
    one_lt_length_statements_iff]
  intro parts
  obtain ⟨a, b, whole, -⟩ := parts
  exact semicolon (by rw [whole]; simp)

end Rules

/-! ## the verdict -/

/-- A projection begins with the verb that reads. -/
theorem hasLeadingVerb_projection :
    hasLeadingVerb (trimStart (projection columns table)) = true := by
  have front : trimStart (projection columns table) = projection columns table :=
    List.dropWhile_cons_of_neg (by decide)
  have reading : "SELECT" ∈ readingVerbs := by decide
  have stop : isIdentifier ' ' = false := by decide
  rw [front, projection_eq, hasLeadingVerb_iff]
  exact ⟨"SELECT", reading, _, _, rfl, rfl, stop⟩

theorem not_allBlank_projection : allBlank (projection columns table) = false := by
  have first : 'S' ∈ projection columns table := List.mem_cons_self
  exact List.all_eq_false.mpr ⟨'S', first, by decide⟩

/-- **A read of some columns of a table is accepted unless it is too long**, whatever words its
names hold as proper parts. -/
theorem judge_projection (named : ∀ name ∈ table :: columns, Mentionable name) :
    judge (projection columns table) = .accepted ↔ (projection columns table).length ≤ 10000 := by
  have free := commentFree_projection named
  have parenthesis : '(' ∈ marks.toList := by decide
  rw [judge_eq_accepted_iff]
  constructor
  · exact Passes.short
  · intro short
    exact {
      notBlank := not_allBlank_projection
      short := short
      leadingVerb := (hasLeadingVerb_clean free).trans hasLeadingVerb_projection
      noKeyword := fun word denied => by
        rw [hasKeyword_clean free (isName_of_denied word denied)]
        exact not_hasKeyword_projection named (List.mem_append_left userNames denied)
      noShape := fun shape _ => not_hasShape_projection named shape
      oneStatement := one_statement_projection named
      noCharConversion := not_occursIn_of_needs named parenthesis (by decide) }

/-- A read whose names hold denied keywords and other words of the gate as proper parts, one of them
right before the fixed `FROM`. -/
theorem judge_projection_embedded :
    let columns := ["updated_at".toList, "Selected".toList, "my_UNION".toList]
    (∀ name ∈ "exec_log".toList :: columns, Mentionable name) ∧
      projection columns "exec_log".toList =
        "SELECT updated_at, Selected, my_UNION FROM exec_log".toList ∧
      judge (projection columns "exec_log".toList) = .accepted := by
  intro columns
  have named : ∀ name ∈ "exec_log".toList :: columns, Mentionable name := by decide +kernel
  have text : projection columns "exec_log".toList =
      "SELECT updated_at, Selected, my_UNION FROM exec_log".toList := by decide
  exact ⟨named, text, (judge_projection named).mpr (by rw [text]; decide)⟩

end QueryGuard.Query
