import Marketplace.Sql.Server

/-!
# Migrations

The schema of the database is brought up to date before a service starts. A table keeps the
versions that have been applied; each migration that it lacks runs in a transaction of its own.

* `Migration.all` are the migrations, and `migrate` applies those that are due.
-/

namespace Marketplace.Sql

/-- One change of the schema. -/
structure Migration where
  /-- The version under which it is kept. -/
  version : String
  name : String
  script : String
  deriving DecidableEq, Repr

/-- A text of lines, each with a line feed at its end. -/
def lines (ls : List String) : String := String.join (ls.map (· ++ "\n"))

/-- The tables of the marketplace. -/
def createMarketplace : Migration where
  version := "20240301120000"
  name := "2024-03-01-120000_create_marketplace"
  script := lines
    ["CREATE TABLE product (",
     "    id BIGSERIAL PRIMARY KEY,",
     "    saler_id BIGINT NOT NULL,",
     "    title VARCHAR NOT NULL,",
     "    price NUMERIC(12, 2) NOT NULL,",
     "    city VARCHAR NOT NULL DEFAULT '',",
     "    available_count INTEGER NOT NULL DEFAULT 0 CHECK (available_count >= 0),",
     "    delivery BOOLEAN NOT NULL DEFAULT FALSE,",
     "    safe_deal BOOLEAN NOT NULL DEFAULT FALSE,",
     "    is_active BOOLEAN NOT NULL DEFAULT TRUE,",
     "    premium_status SMALLINT NOT NULL DEFAULT 0,",
     "    premium_period SMALLINT,",
     "    premium_begin TIMESTAMPTZ,",
     "    premium_expire TIMESTAMPTZ,",
     "    created_at TIMESTAMPTZ NOT NULL DEFAULT NOW()",
     ");",
     "",
     "CREATE TABLE product_images (",
     "    id BIGSERIAL PRIMARY KEY,",
     "    product_id BIGINT NOT NULL REFERENCES product (id) ON DELETE CASCADE,",
     "    url VARCHAR NOT NULL",
     ");",
     "",
     "CREATE TABLE favourites (",
     "    owner_id BIGINT NOT NULL,",
     "    product_id BIGINT NOT NULL REFERENCES product (id) ON DELETE CASCADE,",
     "    PRIMARY KEY (owner_id, product_id)",
     ");",
     "",
     "CREATE TABLE orders (",
     "    id BIGSERIAL PRIMARY KEY,",
     "    owner_id BIGINT NOT NULL,",
     "    product_id BIGINT NOT NULL REFERENCES product (id),",
     "    count INTEGER NOT NULL CHECK (count > 0),",
     "    status SMALLINT NOT NULL DEFAULT 0,",
     "    created_at TIMESTAMPTZ NOT NULL DEFAULT NOW(),",
     "    updated_at TIMESTAMPTZ NOT NULL DEFAULT NOW()",
     ");",
     "",
     "CREATE INDEX idx_orders_owner_status ON orders (owner_id, status);",
     "CREATE INDEX idx_orders_product ON orders (product_id);",
     "CREATE INDEX idx_product_images_product ON product_images (product_id);"]

/-- The migrations, the oldest first. -/
def Migration.all : List Migration := [createMarketplace]

/-- Why the schema could not be brought up to date. -/
inductive MigrationError where
  | storage (fault : StorageFault)
  /-- The script of a migration failed, with the server's message. -/
  | script (name message : String)
  deriving DecidableEq, Repr

def MigrationError.message : MigrationError → String
  | storage (.database text) => "Migration error: " ++ text
  | storage fault => "Migration error: " ++ fault.message
  | script name text => "Migration error: Failed to run " ++ name ++ " with: " ++ text

/-! ## Statements -/

/-- Creates the table of versions unless it is there. -/
def createVersions : Statement :=
  .plain (lines
    ["CREATE TABLE IF NOT EXISTS __diesel_schema_migrations (",
     "       version VARCHAR(50) PRIMARY KEY NOT NULL,",
     "       run_on TIMESTAMP NOT NULL DEFAULT CURRENT_TIMESTAMP",
     ");"])

/-- Asks for the versions that have been applied. -/
def listVersions : Statement :=
  .bound ("SELECT \"__diesel_schema_migrations\".\"version\" FROM \"__diesel_schema_migrations\" "
    ++ "ORDER BY \"__diesel_schema_migrations\".\"version\" DESC") []

/-- Records a version as applied. -/
def insertVersion (version : String) : Statement :=
  .bound "INSERT INTO \"__diesel_schema_migrations\" (\"version\") VALUES ($1)" [.text version]

/-! ## Running -/

variable {σ : Type}

/-- Sends one statement and reads the reply. -/
def ask {ε α : Type} (server : Server σ) (statement : Statement) (read : Reply → Except ε α)
    (s : σ) : Outcome σ ε α :=
  let (reply, s) := server.send statement s
  ⟨read reply, s, []⟩

/-- Applies one migration in a transaction. -/
def Migration.apply (server : Server σ) (m : Migration) : σ → Outcome σ MigrationError Unit :=
  transact server .storage (fun _ => false) fun s =>
    (ask server (.plain m.script) (fun
      | .refused text => .error (.script m.name text)
      | _ => .ok ()) s).andThen fun _ =>
        ask server (insertVersion m.version) fun r => r.check.mapError .storage

/-- Applies migrations in their order, up to the first that fails. -/
def applyAll (server : Server σ) : List Migration → σ → Outcome σ MigrationError Unit
  | [], s => .ok () s
  | m :: ms, s => (m.apply server s).andThen fun _ => applyAll server ms

/-- Applies the migrations whose versions the table lacks. -/
def applyDue (server : Server σ) (s : σ) : Outcome σ MigrationError Unit :=
  (ask server createVersions (fun r => r.check.mapError .storage) s).andThen fun _ s =>
    (ask server listVersions
      (fun r => (r.rows? (singleColumn Value.string?)).mapError .storage) s).andThen fun applied =>
        applyAll server (Migration.all.filter fun m => m.version ∉ applied)

/-- Brings the schema up to date and logs it. -/
def migrate (server : Server σ) (s : σ) : Outcome σ MigrationError Unit :=
  let o := applyDue server s
  let finished := match o.result with
    | .ok _ => [⟨.info, "Migrations completed successfully"⟩]
    | .error _ => []
  { o with log := ⟨.info, "Running database migrations..."⟩ :: o.log ++ finished }

end Marketplace.Sql
