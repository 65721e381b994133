import GraphSchema.Authoring.Decode
import GraphSchema.Authoring.Source
import GraphSchema.Toml.Reader

/-!
# Checked modules

A module is accepted if its names are names, no two types share one, and no union or enum is
empty. The first error in the order of declarations is reported.
-/

namespace GraphSchema.Authoring

open Context

/-- Checks keys in order: each is a name and none came before. -/
def checkDistinct (context : Context) (fault : String → ModuleFault) :
    List String → List (String × String) → Except ModuleError Unit
  | _, [] => .ok ()
  | seen, (kind, name) :: rest => do
    context.checkName name kind
    if name ∈ seen then throw (context.fault (fault name) name)
    checkDistinct context fault (name :: seen) rest

def checkImports (context : Context) (imports : List FieldImport) : Except ModuleError Unit :=
  imports.forM fun i => do
    context.checkName i.source "import source"
    match i.moduleName with
    | some name => context.checkName name "module"
    | none => return ()

def checkComposite (context : Context) (decl : CompositeDecl) : Except ModuleError Unit := do
  decl.interfaces.forM (context.checkName · "interface")
  checkImports context decl.imports
  decl.fields.entries.forM fun (name, field) => do
    context.checkName name "field"
    field.arguments.keys.forM ((context.push name).checkName · "argument")

def checkUnion (context : Context) (name : String) (decl : UnionDecl) :
    Except ModuleError Unit := do
  if decl.members.isEmpty then throw (context.fault (.emptyUnion name) name)
  decl.members.forM ((context.push name).checkName · "union member")

def checkEnum (context : Context) (name : String) (decl : EnumDecl) :
    Except ModuleError Unit := do
  if decl.values.isEmpty then throw (context.fault (.emptyEnum name) name)
  checkDistinct (context.push name) (.valueTwice · name) []
    (decl.values.map fun value => ("enum value", value.key))

/-- Checks an input; its fields' types are checked to be names, too. -/
def checkInput (context : Context) (decl : InputDecl) : Except ModuleError Unit := do
  checkImports context decl.imports
  decl.fields.entries.forM fun (name, field) => do
    context.checkName name "input field"
    context.checkName field.type.baseName "type"

def checkModule (context : Context) (m : SchemaModule) : Except ModuleError Unit := do
  context.checkName m.name "module"
  m.roots.declared.forM fun (operation, name) =>
    (context.push "schema").checkName name operation.text
  checkDistinct context .typeTwice [] (m.declarations.map fun (kind, name) => (kind.text, name))
  m.objects.entries.forM fun (name, decl) => checkComposite (context.push name) decl
  m.interfaces.entries.forM fun (name, decl) => checkComposite (context.push name) decl
  m.unions.entries.forM fun (name, decl) => checkUnion context name decl
  m.enums.entries.forM fun (name, decl) => checkEnum context name decl
  m.inputs.entries.forM fun (name, decl) => checkInput (context.push name) decl

end Authoring

/-- Reads a schema module from its text and checks it. -/
def SchemaModule.read (source : String) : Except ModuleError SchemaModule :=
  match Toml.read? source with
  | none => .error (.malformed none)
  | some document =>
    match Authoring.moduleOf document with
    | .error mismatch => .error (.malformed (some mismatch))
    | .ok m => do
      Authoring.checkModule { source := source.toList } m
      return m

end GraphSchema
