import GraphSchema.Authoring.Module
import GraphSchema.Authoring.Record

/-!
# Modules in documents

The records of a schema module, key by key.
-/

namespace GraphSchema.Authoring

def deprecationMark : Reads DeprecationMark :=
  oneOf [fun value => .flag <$> boolean value, fun value => .reason <$> text value]

/-- A field import in full. -/
def importRecord : Record FieldImport where
  blank := { source := "" }
  slots := [
    slot "from" text fun source i => { i with source },
    slot "module" text fun name i => { i with moduleName := some name },
    slot "except" (listOf text) fun except i => { i with except }]
  required := some "from"
  listForm := .never

/-- A field import, which may be the name of its source alone. -/
def fieldImport : Reads FieldImport :=
  oneOf [fun value => ({ source := · }) <$> text value, importRecord.read]

def enumValueRecord : Record EnumValueDecl where
  blank := { key := "" }
  slots := [
    slot "key" text fun key v => { v with key },
    slot "as" text fun name v => { v with aliasName := some name },
    slot "description" text fun description v => { v with description := some description },
    slot "deprecated" deprecationMark fun mark v => { v with deprecated := some mark }]
  required := some "key"
  listForm := .exact

/-- An enum value, which may be its key alone. -/
def enumValue : Reads EnumValueDecl :=
  oneOf [fun value => ({ key := · }) <$> text value, enumValueRecord.read]

def inputValueRecord : Record InputValueDecl where
  blank := default
  slots := [
    slot "type" typeExpression fun type v => { v with type },
    slot "description" text fun description v => { v with description := some description },
    slot "default" rawValue fun value v => { v with default := some value }]
  required := some "type"

def fieldRecord : Record FieldDecl where
  blank := default
  slots := [
    slot "type" typeExpression fun type f => { f with type },
    slot "description" text fun description f => { f with description := some description },
    slot "deprecated" deprecationMark fun mark f => { f with deprecated := some mark },
    slot "args" (mapOf inputValueRecord.read) (fun arguments f => { f with arguments }) true]
  required := some "type"

def compositeRecord : Record CompositeDecl where
  blank := {}
  slots := [
    slot "description" text fun description d => { d with description := some description },
    slot "interfaces" (listOf text) (fun interfaces d => { d with interfaces }) true,
    slot "import_fields" (listOf fieldImport) (fun imports d => { d with imports }) true,
    slot "fields" (mapOf fieldRecord.read) (fun fields d => { d with fields }) true]

def unionRecord : Record UnionDecl where
  blank := {}
  slots := [
    slot "description" text fun description d => { d with description := some description },
    slot "types" (listOf text) (fun members d => { d with members }) true]

def enumRecord : Record EnumDecl where
  blank := {}
  slots := [
    slot "description" text fun description d => { d with description := some description },
    slot "values" (listOf enumValue) (fun values d => { d with values }) true]

def inputRecord : Record InputDecl where
  blank := {}
  slots := [
    slot "description" text fun description d => { d with description := some description },
    slot "import_fields" (listOf fieldImport) (fun imports d => { d with imports }) true,
    slot "fields" (mapOf inputValueRecord.read) (fun fields d => { d with fields }) true]

def scalarRecord : Record ScalarDecl where
  blank := {}
  slots := [slot "description" text fun description d => { d with description := some description }]

/-- The name and description of a module. -/
def headRecord : Record (String × Option String) where
  blank := ("", none)
  slots := [
    slot "name" text fun name head => (name, head.2),
    slot "description" text fun description head => (head.1, some description)]
  required := some "name"

def rootsRecord : Record Roots where
  blank := {}
  slots := Operation.all.map fun operation =>
    slot operation.text text fun name roots => roots.set operation name

def moduleRecord : Record SchemaModule where
  blank := {}
  slots := [
    slot "module" headRecord.read fun head m => { m with name := head.1, description := head.2 },
    slot "schema" rootsRecord.read fun roots m => { m with roots },
    slot "objects" (mapOf compositeRecord.read) fun objects m => { m with objects },
    slot "interfaces" (mapOf compositeRecord.read) fun interfaces m => { m with interfaces },
    slot "unions" (mapOf unionRecord.read) fun unions m => { m with unions },
    slot "enums" (mapOf enumRecord.read) fun enums m => { m with enums },
    slot "inputs" (mapOf inputRecord.read) fun inputs m => { m with inputs },
    slot "scalars" (mapOf scalarRecord.read) fun scalars m => { m with scalars }]
  required := some "module"

/-- Reads the module that a document describes. Its names are not looked at. -/
def moduleOf (document : Toml.Table) : Except Mismatch SchemaModule :=
  moduleRecord.ofEntries document

end GraphSchema.Authoring
