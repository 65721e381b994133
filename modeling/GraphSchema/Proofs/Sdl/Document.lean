import GraphSchema.Proofs.Sdl.Escaping
import GraphSchema.Results
import GraphSchema.Sdl.Printer

/-!
# What is printed of a schema

The document of a schema holds what its text shows: names as they print, types, default values as
their literals, descriptions as their lines. Where printing succeeds, the text is that of the
document.
-/

namespace GraphSchema.Sdl

/-! ## Documents -/

/-- The lines of a description. -/
abbrev Description := Option (List (List Char))

/-- An argument, or a field of an input object. Arguments are never deprecated. -/
@[ext]
structure PrintedInput where
  name : String
  type : TypeRef
  description : Description := none
  default : Option String := none
  deprecation : Option Deprecation := none
  deriving DecidableEq

/-- A field of an object or interface. -/
@[ext]
structure PrintedField where
  name : String
  type : TypeRef
  description : Description := none
  arguments : List PrintedInput := []
  deprecation : Option Deprecation := none
  deriving DecidableEq

@[ext]
structure PrintedValue where
  aliasName : String
  description : Description := none
  deprecation : Option Deprecation := none
  deriving DecidableEq

inductive PrintedBody where
  | object (interfaces : List String) (fields : List PrintedField)
  | interface (interfaces : List String) (fields : List PrintedField)
  | inputObject (fields : List PrintedInput)
  | union (members : List String)
  | enum (values : List PrintedValue)
  | scalar
  deriving DecidableEq

@[ext]
structure PrintedType where
  name : String
  description : Description := none
  body : PrintedBody
  deriving DecidableEq

@[ext]
structure Document where
  roots : Roots
  types : List PrintedType
  deriving DecidableEq

/-! ## The document of a schema -/

def describe (description : Option String) : Description :=
  description.map fun text => Text.lines text.toList

section

variable (schema : Schema) (naming : Naming)

def printedDefault (type : TypeRef) (default : Option Value) : Option String :=
  default.bind fun value => (literal schema naming type value).toOption

def printedArgument (argument : Argument) : PrintedInput where
  name := naming.argument argument.name
  type := argument.type
  description := describe argument.description
  default := printedDefault schema naming argument.type argument.default

def printedField (field : Field) : PrintedField where
  name := naming.field field.name
  type := field.type
  description := describe field.description
  arguments := field.arguments.values.map (printedArgument schema naming)
  deprecation := field.deprecation

/-- Fields of input objects print their defaults and no arguments. -/
def printedInputField (field : Field) : PrintedInput where
  name := naming.field field.name
  type := field.type
  description := describe field.description
  default := printedDefault schema naming field.type field.default
  deprecation := field.deprecation

def printedValue (value : EnumValue) : PrintedValue where
  aliasName := value.aliasName
  description := describe value.description
  deprecation := value.deprecation

def printedBody : TypeBody → PrintedBody
  | .object interfaces fields _ =>
    .object interfaces (fields.values.map (printedField schema naming))
  | .interface interfaces fields _ _ =>
    .interface interfaces (fields.values.map (printedField schema naming))
  | .inputObject fields _ => .inputObject (fields.values.map (printedInputField schema naming))
  | .union members => .union members
  | .enum values => .enum (values.values.map printedValue)
  | .scalar _ => .scalar

def printedType (type : TypeDef) : PrintedType where
  name := type.name
  description := describe type.description
  body := printedBody schema naming type.body

/-- What is printed of a schema under a naming. -/
def document : Document := ⟨schema.roots, schema.authored.map (printedType schema naming)⟩

end

/-! ### Lists of names -/

def PrintedBody.interfaces : PrintedBody → List String
  | object interfaces _ => interfaces
  | interface interfaces _ => interfaces
  | _ => []

def PrintedBody.members : PrintedBody → List String
  | union members => members
  | _ => []

@[simp] theorem interfaces_printedType (schema : Schema) (naming : Naming) (type : TypeDef) :
    (printedType schema naming type).body.interfaces = type.interfaces := by
  rcases type with ⟨name, description, moduleName, body⟩
  cases body <;> rfl

/-! ## The lines of a document -/

/-- Lines with a description above them. -/
def Description.above (lines : List Line) : Description → List Line
  | none => lines
  | some content =>
    .text 0 "\"\"\"" :: content.map (fun line => Line.ofChars (escapeQuotes line)) ++
      .text 0 "\"\"\"" :: lines

/-- A default value behind a type. -/
def assignmentText : Option String → String
  | none => ""
  | some literal => " = " ++ literal

namespace PrintedInput

def text (input : PrintedInput) : String :=
  input.name ++ ": " ++ input.type.text ++ assignmentText input.default ++
    deprecationText input.deprecation

def lines (input : PrintedInput) : List Line := input.description.above [.text 0 input.text]

end PrintedInput

namespace PrintedField

def ending (field : PrintedField) : String :=
  ": " ++ field.type.text ++ deprecationText field.deprecation

def plainLines (field : PrintedField) : List Line :=
  if field.arguments.isEmpty then [.text 0 (field.name ++ field.ending)]
  else if field.arguments.any (·.description.isSome) then
    block (field.name ++ "(") (")" ++ field.ending) (field.arguments.flatMap PrintedInput.lines)
  else
    [.text 0 (field.name ++ "(" ++
      String.intercalate ", " (field.arguments.map PrintedInput.text) ++ ")" ++ field.ending)]

def lines (field : PrintedField) : List Line := field.description.above field.plainLines

end PrintedField

def PrintedValue.lines (value : PrintedValue) : List Line :=
  value.description.above [.text 0 (value.aliasName ++ deprecationText value.deprecation)]

def PrintedBody.lines (name : String) : PrintedBody → List Line
  | .object interfaces fields =>
    bracedLines ("type " ++ name ++ implementsText interfaces) fields.isEmpty
      (fields.flatMap PrintedField.lines)
  | .interface interfaces fields =>
    bracedLines ("interface " ++ name ++ implementsText interfaces) fields.isEmpty
      (fields.flatMap PrintedField.lines)
  | .inputObject fields =>
    bracedLines ("input " ++ name) fields.isEmpty (fields.flatMap PrintedInput.lines)
  | .union members => [.text 0 (unionText name members)]
  | .enum values =>
    bracedLines ("enum " ++ name) values.isEmpty (values.flatMap PrintedValue.lines)
  | .scalar => [.text 0 ("scalar " ++ name)]

def PrintedType.lines (type : PrintedType) : List Line :=
  type.description.above (type.body.lines type.name)

def Document.lines (document : Document) : List Line :=
  separated ((if document.roots.isEmpty then [] else [rootsLines document.roots]) ++
    document.types.map PrintedType.lines)

/-! ## Printing prints the document -/

theorem isSome_describe (description : Option String) :
    (describe description).isSome = description.isSome :=
  Option.isSome_map

theorem descriptionLines_append (description : Option String) (lines : List Line) :
    descriptionLines description ++ lines = (describe description).above lines := by
  cases description with
  | none => rfl
  | some text =>
    simp [descriptionLines, describe, Description.above, textLines, lines_escapeQuotes]

section

variable {schema : Schema} {naming : Naming}

theorem text_of_typeText {type : TypeRef} {place : Place} {text : String}
    (h : typeText schema type place = .ok text) : text = type.text := by
  unfold typeText at h
  split at h
  · exact (Except.ok.inj h).symm
  · cases h

theorem text_of_defaultText {type : TypeRef} {default : Option Value} {text : String}
    (h : defaultText schema naming type default = .ok text) :
    text = assignmentText (printedDefault schema naming type default) := by
  cases default with
  | none => exact (Except.ok.inj h).symm
  | some value =>
    simp only [defaultText, bind_eq_ok_iff] at h
    obtain ⟨literal, hliteral, hpure⟩ := h
    rw [← Except.ok.inj hpure, printedDefault, Option.bind_some, hliteral]
    rfl

theorem text_of_argumentText {field : Field} {argument : Argument} {text : String}
    (h : argumentText schema naming field argument = .ok text) :
    text = (printedArgument schema naming argument).text := by
  unfold argumentText at h
  obtain ⟨type, htype, h⟩ := bind_eq_ok_iff.1 h
  obtain ⟨default, hdefault, hpure⟩ := bind_eq_ok_iff.1 h
  have hplain : deprecationText none = "" := rfl
  rw [← Except.ok.inj hpure, text_of_typeText htype, text_of_defaultText hdefault,
    PrintedInput.text, printedArgument, hplain, String.append_empty]

theorem lines_of_argumentLines {field : Field} {argument : Argument} {lines : List Line}
    (h : argumentLines schema naming field argument = .ok lines) :
    lines = (printedArgument schema naming argument).lines := by
  simp only [argumentLines, bind_eq_ok_iff] at h
  obtain ⟨text, htext, hpure⟩ := h
  rw [← Except.ok.inj hpure, text_of_argumentText htext, descriptionLines_append]
  rfl

theorem lines_of_inputFieldLines {field : Field} {lines : List Line}
    (h : inputFieldLines schema naming field = .ok lines) :
    descriptionLines field.description ++ lines =
      (printedInputField schema naming field).lines := by
  simp only [inputFieldLines, bind_eq_ok_iff] at h
  obtain ⟨type, htype, default, hdefault, hpure⟩ := h
  rw [← Except.ok.inj hpure, text_of_typeText htype, text_of_defaultText hdefault,
    descriptionLines_append]
  rfl

theorem lines_of_fieldLines {field : Field} {lines : List Line}
    (h : fieldLines schema naming field = .ok lines) :
    descriptionLines field.description ++ lines = (printedField schema naming field).lines := by
  unfold fieldLines at h
  obtain ⟨type, htype, h⟩ := bind_eq_ok_iff.1 h
  have hplain : lines = (printedField schema naming field).plainLines := by
    unfold PrintedField.plainLines PrintedField.ending
    simp only [printedField, List.isEmpty_map, List.any_map, Function.comp_def, printedArgument,
      isSome_describe]
    rw [text_of_typeText htype] at h
    dsimp only at h
    split at h
    · rename_i hempty
      rw [if_pos hempty, ← Except.ok.inj h]
    · rename_i hempty
      rw [if_neg hempty]
      split at h
      · rename_i hdescribed
        obtain ⟨all, hall, hpure⟩ := bind_eq_ok_iff.1 h
        rw [if_pos hdescribed, ← Except.ok.inj hpure, List.flatMap_map, List.flatMap,
          eq_map_of_mapM hall fun _ _ _ => lines_of_argumentLines]
      · rename_i hdescribed
        obtain ⟨texts, htexts, hpure⟩ := bind_eq_ok_iff.1 h
        rw [if_neg hdescribed, ← Except.ok.inj hpure, List.map_map,
          eq_map_of_mapM htexts fun _ _ _ => text_of_argumentText]
        rfl
  rw [hplain, descriptionLines_append]
  rfl

theorem lines_of_withFields {α : Type} {header : String} {fields : FieldMap}
    {print : Field → Except CompileError (List Line)} {printed : Field → α}
    {write : α → List Line} {lines : List Line}
    (hprint : ∀ field lines, print field = .ok lines →
      descriptionLines field.description ++ lines = write (printed field))
    (h : withFields header fields print = .ok lines) :
    lines = bracedLines header (fields.values.map printed).isEmpty
      ((fields.values.map printed).flatMap write) := by
  unfold withFields at h
  obtain ⟨all, hall, hpure⟩ := bind_eq_ok_iff.1 h
  have hlines : all = fields.values.map fun field => write (printed field) := by
    refine eq_map_of_mapM hall fun field _ result hresult => ?_
    obtain ⟨lines, hlines, hpure⟩ := bind_eq_ok_iff.1 hresult
    rw [← Except.ok.inj hpure]
    exact hprint field lines hlines
  have hempty : (fields.values.map printed).isEmpty = fields.isEmpty := by
    simp [OrderedMap.values, OrderedMap.isEmpty]
  rw [← Except.ok.inj hpure, hempty, hlines, List.flatMap_map, List.flatMap]

theorem lines_of_bodyLines {name : String} {body : TypeBody} {lines : List Line}
    (h : bodyLines schema naming name body = .ok lines) :
    lines = (printedBody schema naming body).lines name := by
  cases body with
  | object => exact lines_of_withFields (fun _ _ => lines_of_fieldLines) h
  | interface => exact lines_of_withFields (fun _ _ => lines_of_fieldLines) h
  | inputObject => exact lines_of_withFields (fun _ _ => lines_of_inputFieldLines) h
  | union => exact (Except.ok.inj h).symm
  | scalar => exact (Except.ok.inj h).symm
  | enum values =>
    have hempty : (values.values.map printedValue).isEmpty = values.isEmpty := by
      simp [OrderedMap.values, OrderedMap.isEmpty]
    have hvalue : ∀ value, (printedValue value).lines = enumValueLines value := fun value =>
      (descriptionLines_append value.description _).symm
    rw [← Except.ok.inj h, printedBody, PrintedBody.lines, hempty, List.flatMap_map]
    simp only [hvalue]

theorem lines_of_typeLines {type : TypeDef} {lines : List Line}
    (h : typeLines schema naming type = .ok lines) :
    lines = (printedType schema naming type).lines := by
  unfold typeLines at h
  obtain ⟨body, hbody, hpure⟩ := bind_eq_ok_iff.1 h
  rw [← Except.ok.inj hpure, lines_of_bodyLines hbody, descriptionLines_append]
  rfl

end

/-- A schema that prints has the text of its document. -/
theorem text_of_print {schema : Schema} {style : Style} {text : String}
    (h : print schema style = .ok text) :
    text = renderLines style.indent (document schema style.naming).lines := by
  unfold print lines at h
  obtain ⟨all, hall, hpure⟩ := bind_eq_ok_iff.1 h
  obtain ⟨types, htypes, hpure'⟩ := bind_eq_ok_iff.1 hall
  rw [← Except.ok.inj hpure, ← Except.ok.inj hpure', Document.lines, document, List.map_map,
    eq_map_of_mapM htypes fun _ _ _ => lines_of_typeLines]
  rfl

end GraphSchema.Sdl
