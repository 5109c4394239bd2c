import QueryGuard.Proofs.Settings.RecordLimit
import QueryGuard.Proofs.Text.Upper

/-!
# QueryGuard.Proofs.Settings.FixedPoint

What loading makes of the environment, a second loading leaves as it is.

The settings written back into their variables load as the same settings, and blanks around the
values and the case of ASCII letters do not matter (`load_fixed`).  Each variable has a lemma for
either: a limit on rows has few enough digits to be read again (`recordLimit_toString`), and a level
name is its own capital form (`IsLevelName`).
-/

namespace QueryGuard.Settings

open Text Text.Numeral

variable {s t : String} {s? t? : Option String} {env env' : Environment}

/-- Sets the four variables to what the settings say. -/
def writeTo (settings : Settings) (env : Environment) : Environment :=
  (((env.set "DATABASE_PATH" settings.databasePath).set "READONLY"
    (if settings.readOnly then "true" else "false")).set "MAX_RESULT_SET"
    (toString settings.maxRecordCount)).set "LOG_LEVEL" settings.logLevel

/-- The second text is the first with blanks around. -/
def Padded (s t : String) : Prop :=
  ∃ before after, allBlank before = true ∧ allBlank after = true ∧
    t.toList = before ++ s.toList ++ after

/-- The second text is the first with blanks around and with other letter case in ASCII. -/
def Restyled (s t : String) : Prop :=
  ∃ u : String, u.toList.map Char.toLower = s.toList.map Char.toLower ∧ Padded u t

/-- The second environment has the variables of the first, with blanks around the values and in
other letter case where neither matters. -/
structure SameMeaning (env env' : Environment) : Prop where
  databasePath : env'.get? "DATABASE_PATH" = env.get? "DATABASE_PATH"
  readOnly : Option.Rel Restyled (env.get? "READONLY") (env'.get? "READONLY")
  maxRecordCount : Option.Rel Padded (env.get? "MAX_RESULT_SET") (env'.get? "MAX_RESULT_SET")
  logLevel : Option.Rel Restyled (env.get? "LOG_LEVEL") (env'.get? "LOG_LEVEL")

theorem Padded.trim_eq (h : Padded s t) : trim t.toList = trim s.toList := by
  obtain ⟨before, after, front, back, text⟩ := h
  rw [text, trim_padded front back]

/-- Texts that differ in padding and ASCII case are the same once trimmed and lowered. -/
theorem Restyled.trim_eq (h : Restyled s t) :
    (trim t.toList).map Char.toLower = (trim s.toList).map Char.toLower := by
  obtain ⟨u, recased, padded⟩ := h
  rw [padded.trim_eq, ← trim_map isBlank_toLower, recased, trim_map isBlank_toLower]

/-! ## the refusal of writes -/

theorem loweredChar_toLower (c : Char) : loweredChar c.toLower = loweredChar c :=
  apply_toLower (by decide +kernel) c

theorem lowered_map_toLower (s : List Char) : lowered (s.map Char.toLower) = lowered s := by
  rw [lowered, List.flatMap_map]
  exact List.flatMap_congr fun c _ => loweredChar_toLower c

/-- Padding and ASCII case do not change whether writes are refused. -/
theorem isReadOnly_restyled (h : Option.Rel Restyled s? t?) :
    isReadOnly (t?.getD "") = isReadOnly (s?.getD "") := by
  cases h with
  | none => rfl
  | some restyled =>
      rw [Option.getD_some, isReadOnly, ← lowered_map_toLower, restyled.trim_eq,
        lowered_map_toLower, Option.getD_some, isReadOnly]

theorem isReadOnly_ite (b : Bool) : isReadOnly (if b then "true" else "false") = b := by
  cases b <;> decide

/-! ## the limit on rows -/

/-- Padding does not change the limit. -/
theorem recordLimit_padded (h : Option.Rel Padded s? t?) : recordLimit t? = recordLimit s? := by
  cases h with
  | none => rfl
  | some padded => simp only [recordLimit, parse?, padded.trim_eq]

/-- A positive limit of few digits is read as it is written. -/
theorem recordLimit_ofNat {n : Nat} (positive : 0 < n)
    (few : (Nat.toDigits 10 n).length ≤ 4300) : recordLimit (some (toString (n : Int))) = n := by
  have text : (toString (n : Int)).toList = [] ++ ([] ++ Nat.toDigits 10 n) ++ [] := by
    rw [List.nil_append, List.nil_append, List.append_nil]
    exact String.toList_ofList
  have numeral : IsNumeral (toString (n : Int)).toList n := by
    rw [text]
    exact isNumeral_toDigits rfl rfl (.inl rfl) few
  exact recordLimit_of_setsLimit ⟨_, rfl, numeral, by omega⟩

/-- The decimal text of a limit sets that limit. -/
theorem recordLimit_toString (value? : Option String) :
    recordLimit (some (toString (recordLimit value?))) = recordLimit value? := by
  have positive := recordLimit_pos value?
  have few := length_toDigits_recordLimit value?
  have again := recordLimit_ofNat (Int.lt_toNat.mpr positive) few
  rwa [Int.toNat_of_nonneg positive.le] at again

/-! ## the level name -/

/-- A name of a log level: a text that no blank begins or ends, in capitals. -/
structure IsLevelName (name : List Char) : Prop where
  nonempty : name ≠ []
  fullEnds : FullEnds name
  capitals : upper name = name

/-- Padding and ASCII case do not change the name of a level. -/
theorem levelName_restyled (h : Option.Rel Restyled s? t?) (unset : String) :
    levelName (t?.getD unset) = levelName (s?.getD unset) := by
  cases h with
  | none => rfl
  | @some s t restyled =>
      have same : upper (trim t.toList) = upper (trim s.toList) := by
        rw [← upper_map_toLower, restyled.trim_eq, upper_map_toLower]
      rw [Option.getD_some, levelName, same, Option.getD_some, levelName]

/-- What is read as a level has the form of its name. -/
theorem isLevelName_levelName (value : String) : IsLevelName (levelName value).toList := by
  rw [levelName]
  split
  · have trimmed : trim defaultLogLevel.toList = defaultLogLevel.toList := by decide
    exact ⟨by decide, trimmed ▸ fullEnds_trim _, by decide⟩
  · next nonempty =>
    rw [String.toList_ofList]
    exact ⟨fun empty => nonempty (by rw [empty]; rfl), (fullEnds_trim _).upper, upper_upper _⟩

theorem levelName_eq_self (h : IsLevelName s.toList) : levelName s = s := by
  have nonempty : ¬ s.toList.isEmpty = true := mt List.isEmpty_iff.mp h.nonempty
  rw [levelName, trim_eq_self h.fullEnds, h.capitals, if_neg nonempty, String.ofList_toList]

/-! ## the settings -/

theorem logLevel_load (env : Environment) :
    (load env).logLevel = levelName ((env.get? "LOG_LEVEL").getD defaultLogLevel) := by
  rw [load]

theorem isLevelName_load (env : Environment) : IsLevelName (load env).logLevel.toList := by
  rw [logLevel_load]
  exact isLevelName_levelName _

/-- Settings that are written to an environment are loaded from it as they were. -/
theorem load_writeTo (env base : Environment) : load ((load env).writeTo base) = load env := by
  have path : ((load env).writeTo base).get? "DATABASE_PATH" = some (load env).databasePath := by
    simp [writeTo, Environment.get?_set]
  have flag : ((load env).writeTo base).get? "READONLY" =
      some (if (load env).readOnly then "true" else "false") := by
    simp [writeTo, Environment.get?_set]
  have limit : ((load env).writeTo base).get? "MAX_RESULT_SET" =
      some (toString (load env).maxRecordCount) := by
    simp [writeTo, Environment.get?_set]
  have level : ((load env).writeTo base).get? "LOG_LEVEL" = some (load env).logLevel := by
    simp [writeTo, Environment.get?_set]
  have limitAgain : recordLimit (some (toString (load env).maxRecordCount)) =
      (load env).maxRecordCount := by
    rw [maxRecordCount_load, recordLimit_toString]
  rw [load, path, flag, limit, level, Option.getD_some, Option.getD_some, Option.getD_some,
    isReadOnly_ite, limitAgain, levelName_eq_self (isLevelName_load env)]

theorem load_sameMeaning (h : SameMeaning env env') : load env' = load env := by
  rw [load, h.databasePath, isReadOnly_restyled h.readOnly, recordLimit_padded h.maxRecordCount,
    levelName_restyled h.logLevel, load]

/-- **Loading is a fixed point of writing back**: the settings, written into their variables, load
as the same settings.  The log level is a text that no blank begins or ends, and the settings stay
the same with blanks around the values of `READONLY`, `MAX_RESULT_SET` and `LOG_LEVEL` and with
`READONLY` and `LOG_LEVEL` in other letter case. -/
theorem load_fixed (env : Environment) :
    (∀ base, load ((load env).writeTo base) = load env) ∧
      ((load env).logLevel ≠ "" ∧ FullEnds (load env).logLevel.toList) ∧
      ∀ env', SameMeaning env env' → load env' = load env := by
  have name := isLevelName_load env
  refine ⟨load_writeTo env, ⟨?_, name.fullEnds⟩, fun env' => load_sameMeaning⟩
  exact fun empty => name.nonempty (String.toList_eq_nil_iff.mpr empty)

/-- The flag and the level in other letter case, and blanks of several scripts around the values. -/
theorem load_fixed_of_blanks :
    let env := Environment.ofList
      [("READONLY", "true"), ("MAX_RESULT_SET", "5"), ("LOG_LEVEL", "straße")]
    let env' := Environment.ofList
      [("READONLY", " TRUE\n"), ("MAX_RESULT_SET", "\u20035 "), ("LOG_LEVEL", "Straße\t")]
    SameMeaning env env' ∧ load env' = load env ∧ (load env).logLevel = "STRASSE" := by
  intro env env'
  have same : SameMeaning env env' :=
    { databasePath := rfl
      readOnly := .some ⟨"TRUE", by decide, [' '], ['\n'], by decide⟩
      maxRecordCount := .some ⟨['\u2003'], [' '], by decide⟩
      logLevel := .some ⟨"Straße", by decide, [], ['\t'], by decide⟩ }
  exact ⟨same, (load_fixed env).2.2 env' same, by decide⟩

end QueryGuard.Settings
