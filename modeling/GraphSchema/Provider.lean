import GraphSchema.Compile.Pipeline

/-!
# Providers

A provider hands out compiled schemas by identity. Without a store it compiles on every call. With
one it has a cell for every identity, filled by the first call from the store or, if the store lacks
the schema, by the compiler. Later calls get what the cell holds, but a failure is evicted.
-/

namespace GraphSchema

/-- Why a schema was not handed out. -/
inductive ProviderError where
  | source (identity message : String)
  | store (identity message : String)
  | compile (error : PipelineError)
  deriving DecidableEq, Repr

def ProviderError.message : ProviderError → String
  | source identity message => "failed to load schema `" ++ identity ++ "`: " ++ message
  | store identity message => "blueprint store failed for `" ++ identity ++ "`: " ++ message
  | compile error => error.message

/-- A schema that was handed out. The number tells it apart from equal ones. -/
structure Handle where
  id : Nat
  schema : Schema

/-! ## Stores -/

/-- A store of handles: where its contents are kept, and how they are read and written. -/
structure Store (τ : Type) where
  number : Nat
  get : String → τ → Except ProviderError (Option Handle) × τ
  put : String → Handle → τ → Except ProviderError Unit × τ

/-- The store in memory, which never fails. -/
def Store.memory (number : Nat) : Store (OrderedMap String Handle) where
  number
  get identity entries := (.ok (entries.get? identity), entries)
  put identity handle entries := (.ok (), entries.insert identity handle)

/-! ## Compilers and providers -/

/-- Loads and compiles schemas. Loading and the pipeline may depend on a state of the world, which
loads and runs may change. -/
structure Compiler (σ : Type) where
  load : String → σ → Except ProviderError Schema × σ
  pipeline : σ → Pipeline
  afterRun : Pipeline.Run Schema → σ → σ := fun _ world => world

/-- The compiler for debugging. -/
def Compiler.debugText {σ : Type} (compiler : Compiler σ) (world : σ) : String :=
  "DirectProvider \x7b pipeline: " ++ (compiler.pipeline world).debugText ++ ", .. \x7d"

structure Provider (σ τ : Type) where
  id : Nat
  compiler : Compiler σ
  /-- The store that the provider looks into first, if any. -/
  store : Option (Store τ)

/-- Providers at work. Calls come one at a time, so nobody looks at a cell before the call that makes
it has filled it, and the cell that a failure is evicted from is the one that it was put into. -/
structure Service (σ τ : Type) where
  world : σ
  /-- How many handles were made. -/
  made : Nat := 0
  /-- The contents of each store. -/
  contents : Nat → τ
  /-- What the cells of each provider hold. -/
  cells : Nat → OrderedMap String (Except ProviderError Handle) := fun _ => .empty

namespace Service

variable {σ τ : Type}

/-- A result, and the service after it. -/
abbrev Step (σ τ α : Type) := Except ProviderError α × Service σ τ

def make (service : Service σ τ) (schema : Schema) : Handle × Service σ τ :=
  (⟨service.made, schema⟩, { service with made := service.made + 1 })

/-! ## The store -/

def setContents (service : Service σ τ) (number : Nat) (contents : τ) : Service σ τ :=
  { service with contents := fun n => if n = number then contents else service.contents n }

def fetch (service : Service σ τ) (store : Store τ) (identity : String) :
    Step σ τ (Option Handle) :=
  let (result, contents) := store.get identity (service.contents store.number)
  (result, service.setContents store.number contents)

def keep (service : Service σ τ) (store : Store τ) (identity : String) (handle : Handle) :
    Step σ τ Unit :=
  let (result, contents) := store.put identity handle (service.contents store.number)
  (result, service.setContents store.number contents)

/-! ## The cells -/

def changeCells (service : Service σ τ) (provider : Nat)
    (change : OrderedMap String (Except ProviderError Handle) →
      OrderedMap String (Except ProviderError Handle)) : Service σ τ :=
  { service with
    cells := fun n => if n = provider then change (service.cells n) else service.cells n }

def fill (service : Service σ τ) (provider : Nat) (identity : String)
    (result : Except ProviderError Handle) : Service σ τ :=
  service.changeCells provider (·.insert identity result)

def evict (service : Service σ τ) (provider : Nat) (identity : String) : Service σ τ :=
  service.changeCells provider (·.erase identity)

/-! ## Calls -/

/-- Loads a schema and compiles it. -/
def compile (service : Service σ τ) (compiler : Compiler σ) (identity : String) :
    Step σ τ Handle :=
  match compiler.load identity service.world with
  | (.error error, world) => (.error error, { service with world })
  | (.ok schema, world) =>
    let run := (compiler.pipeline world).run schema
    let service := { service with world := compiler.afterRun run world }
    match run.result with
    | .error error => (.error (.compile error), service)
    | .ok compiled =>
      let (handle, service) := service.make compiled
      (.ok handle, service)

/-- Takes a schema from a store, or compiles it and puts it there. -/
def obtain (service : Service σ τ) (compiler : Compiler σ) (store : Store τ) (identity : String) :
    Step σ τ Handle :=
  match service.fetch store identity with
  | (.error error, service) => (.error error, service)
  | (.ok (some handle), service) => (.ok handle, service)
  | (.ok none, service) =>
    match service.compile compiler identity with
    | (.error error, service) => (.error error, service)
    | (.ok handle, service) =>
      match service.keep store identity handle with
      | (.error error, service) => (.error error, service)
      | (.ok (), service) => (.ok handle, service)

/-- What the provider's cell of an identity holds. A new cell is filled first. -/
def look (service : Service σ τ) (provider : Provider σ τ) (store : Store τ) (identity : String) :
    Step σ τ Handle :=
  match (service.cells provider.id).get? identity with
  | some result => (result, service)
  | none =>
    let (result, service) := service.obtain provider.compiler store identity
    (result, service.fill provider.id identity result)

/-- Hands out the compiled schema of an identity. A cell that holds a failure is evicted, so the next
call tries again. -/
def get (service : Service σ τ) (provider : Provider σ τ) (identity : String) : Step σ τ Handle :=
  match provider.store with
  | none => service.compile provider.compiler identity
  | some store =>
    match service.look provider store identity with
    | (.error error, service) => (.error error, service.evict provider.id identity)
    | (.ok handle, service) => (.ok handle, service)

end Service

end GraphSchema
