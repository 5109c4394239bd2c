import QueryGuard.Demo.Date
import QueryGuard.Demo.World
import QueryGuard.Settings.Environment

/-!
# QueryGuard.Demo.Fill

The program that makes a demonstration database: it creates tables of customers, products and
orders, and fills them with made-up rows.

All rows are drawn before the first of them is inserted, and the three insertions are kept together
or not at all.
-/

namespace QueryGuard.Demo

open World

/-! ## rows -/

/-- A customer; some have no mail address. -/
structure Customer where
  id : Int
  name : String
  email : Option String
  country : String
deriving DecidableEq, Repr

/-- A product. -/
structure Product where
  id : Int
  name : String
  category : String
  price : Binary64
deriving DecidableEq, Repr

/-- An order of a product by a customer. -/
structure Order where
  id : Int
  customerId : Int
  productId : Int
  quantity : Int
  date : Date
deriving DecidableEq, Repr

/-- The values of a customer, in the order of the columns. -/
def Customer.values (c : Customer) : List Value :=
  [.int c.id, .text c.name, (c.email.map Value.text).getD .null, .text c.country]

/-- The values of a product, in the order of the columns. -/
def Product.values (p : Product) : List Value :=
  [.int p.id, .text p.name, .text p.category, .real p.price]

/-- The values of an order, in the order of the columns. -/
def Order.values (o : Order) : List Value :=
  [.int o.id, .int o.customerId, .int o.productId, .int o.quantity,
    .text (String.ofList o.date.toText)]

/-! ## drawing rows -/

/-- How many rows of each kind are made. -/
structure Counts where
  customers : Int
  products : Int
  orders : Int
deriving DecidableEq, Repr

/-- The usual numbers of rows. -/
def Counts.standard : Counts := ⟨200, 40, 600⟩

/-- One customer in ten, on average, has no mail address. -/
def withoutAddress : Binary64 := 0.1

/-- Draws a customer. -/
def drawCustomer (id : Int) : DemoM Customer := do
  let name ← nextDraw .name
  let share ← nextDraw .fraction
  let email ← if withoutAddress < share then some <$> nextDraw .address else pure none
  let country ← nextDraw .country
  return { id, name, email, country }

/-- The categories of products. -/
def categories : List String := ["Hardware", "Software", "Services", "Accessories"]

/-- The least price. -/
def lowestPrice : Binary64 := 4.99

/-- The greatest price. -/
def highestPrice : Binary64 := 1499.99

/-- Draws a product, which has a price in whole cents. -/
def drawProduct (id : Int) : DemoM Product := do
  let name ← nextDraw .phrase
  let category ← nextDraw (.item categories)
  let price ← nextDraw (.real lowestPrice highestPrice)
  return { id, name, category, price := Binary64.roundTo 2 price }

/-- Draws an order, which is of the year 2025. -/
def drawOrder (counts : Counts) (id : Int) : DemoM Order := do
  let customerId ← nextDraw (.whole 1 counts.customers)
  let productId ← nextDraw (.whole 1 counts.products)
  let quantity ← nextDraw (.whole 1 10)
  let days ← nextDraw (.whole 0 364)
  return { id, customerId, productId, quantity, date := .ofDayOfYear 2025 (Int.toNat days) }

/-- The numbers from one to `count`. -/
def ids (count : Int) : List Int := (List.range count.toNat).map fun n => Int.ofNat (n + 1)

/-! ## the steps of the program -/

/-- The statements that create the tables. -/
def tableScript : String :=
  "\n".intercalate [
    "",
    "        DROP TABLE IF EXISTS orders;",
    "        DROP TABLE IF EXISTS products;",
    "        DROP TABLE IF EXISTS customers;",
    "",
    "        CREATE TABLE customers (",
    "            id INTEGER PRIMARY KEY,",
    "            name TEXT NOT NULL,",
    "            email TEXT,",
    "            country TEXT NOT NULL",
    "        );",
    "",
    "        CREATE TABLE products (",
    "            id INTEGER PRIMARY KEY,",
    "            name TEXT NOT NULL,",
    "            category TEXT NOT NULL,",
    "            price REAL NOT NULL",
    "        );",
    "",
    "        CREATE TABLE orders (",
    "            id INTEGER PRIMARY KEY,",
    "            customer_id INTEGER NOT NULL,",
    "            product_id INTEGER NOT NULL,",
    "            quantity INTEGER NOT NULL,",
    "            order_date TEXT NOT NULL,",
    "            FOREIGN KEY (customer_id) REFERENCES customers(id),",
    "            FOREIGN KEY (product_id) REFERENCES products(id)",
    "        );",
    "",
    "        CREATE INDEX idx_orders_customer ON orders(customer_id);",
    "    "]

/-- The statement that inserts a customer. -/
def insertCustomer : String :=
  "INSERT INTO customers (id, name, email, country) VALUES (?, ?, ?, ?)"

/-- The statement that inserts a product. -/
def insertProduct : String :=
  "INSERT INTO products (id, name, category, price) VALUES (?, ?, ?, ?)"

/-- The statement that inserts an order. -/
def insertOrder : String :=
  "INSERT INTO orders (id, customer_id, product_id, quantity, order_date) VALUES (?, ?, ?, ?, ?)"

/-- Creates the tables. -/
def createTables : DemoM Unit := do
  perform (.executeScript tableScript)
  perform .commit

/-- The rows of the three tables. -/
structure Rows where
  customers : List Customer
  products : List Product
  orders : List Order
deriving DecidableEq, Repr

/-- Draws all rows. -/
def drawRows (counts : Counts) : DemoM Rows := do
  let customers ← (ids counts.customers).mapM drawCustomer
  let products ← (ids counts.products).mapM drawProduct
  let orders ← (ids counts.orders).mapM (drawOrder counts)
  return { customers, products, orders }

/-- The insertion of all customers. -/
def Rows.insertCustomers (rows : Rows) : Event :=
  .executeMany insertCustomer (rows.customers.map Customer.values)

/-- The insertion of all products. -/
def Rows.insertProducts (rows : Rows) : Event :=
  .executeMany insertProduct (rows.products.map Product.values)

/-- The insertion of all orders. -/
def Rows.insertOrders (rows : Rows) : Event :=
  .executeMany insertOrder (rows.orders.map Order.values)

/-- What is told of rows that are kept. -/
def Rows.report (rows : Rows) : String :=
  "  ✓ Inserted " ++ toString rows.customers.length ++ " customers, " ++
    toString rows.products.length ++ " products, " ++ toString rows.orders.length ++ " orders"

/-- Inserts rows and keeps them. -/
def insertRows (rows : Rows) : DemoM Unit := do
  perform rows.insertCustomers
  perform rows.insertProducts
  perform rows.insertOrders
  perform .commit
  print rows.report

/-- Draws all rows and inserts them. -/
def populate (counts : Counts) : DemoM Unit := do
  insertRows (← drawRows counts)

/-- The first number of both sources of random data. -/
def seedNumber : Nat := 7

/-- The start of the program: it fixes the draws and finds the database file, which is the one that
the environment names or one in the directory of the program. -/
def begin (environment : Environment) : DemoM String := do
  perform (.seed .fake seedNumber)
  perform (.seed .random seedNumber)
  let world ← get
  let default := ((world.home.child "data").child "app.db").toText
  return (environment.get? "DATABASE_PATH").getD (String.ofList default)

/-- The directory of a file, as it is made if it does not exist. -/
def directoryOf (world : World) (file : String) : String :=
  String.ofList ((world.workingDirectory.resolve file.toList).parent.toText)

/-- Makes room for a file: the directory that it is to be in, and no file of its name. -/
def makeRoom (file : String) : DemoM Unit := do
  let world ← get
  perform (.makeDirectories (directoryOf world file))
  if world.fileExists file then
    perform (.remove file)

/-- What is told before the database is made. -/
def announcement (file : String) : String := "Creating database at: " ++ file

/-- What is told once the database is made. -/
def success (file : String) : String := "\n✅ Database created successfully at: " ++ file

/-- Makes and fills the database, in place of any that there is. -/
def fill (file : String) (counts : Counts) : DemoM Unit := do
  makeRoom file
  print (announcement file)
  perform (.connect file)
  (do
    createTables
    populate counts
    print (success file)).thenRelease (perform .close)

end QueryGuard.Demo
