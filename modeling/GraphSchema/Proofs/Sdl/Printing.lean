import GraphSchema.Compile.Defaults
import GraphSchema.Compile.Linking
import GraphSchema.Proofs.Sdl.Literals
import GraphSchema.Sdl.Printer

/-!
# Schemas that print

Printing can fail at a reference to a type and at a default value. Linking finds every failure of
the first sort and the check of defaults every one of the second, whatever the naming.
-/

namespace GraphSchema.Sdl

/-! ## Where printing can fail -/

/-- The place is only told in the error. -/
theorem isOk_typeText {schema : Schema} {type : TypeRef} {place : Place}
    (h : Linking.typeRefErrors schema type place = []) (other : Place) :
    (typeText schema type other).isOk := by
  have hfound : schema.contains type.baseName := by simpa [Linking.typeRefErrors] using h
  simp [typeText, hfound, Except.isOk, Except.toBool]

theorem isOk_literal_of_valueErrors {schema : Schema} {type : TypeRef} {value : Value}
    (h : Defaults.valueErrors schema type (some value) = []) (naming : Naming) :
    (literal schema naming type value).isOk := by
  rw [isOk_literal schema .camel naming]
  unfold Defaults.valueErrors at h
  cases hliteral : literal schema .camel type value with
  | ok text => rfl
  | error error => simp [hliteral] at h

theorem isOk_defaultText {schema : Schema} {type : TypeRef} {default : Option Value}
    (h : Defaults.valueErrors schema type default = []) (naming : Naming) :
    (defaultText schema naming type default).isOk := by
  cases default with
  | none => rfl
  | some value =>
    simp only [defaultText, bind_pure_comp, isOk_map]
    exact isOk_literal_of_valueErrors h naming

/-! ## Fields -/

theorem isOk_argumentText {schema : Schema} {argument : Argument} {place : Place}
    (hlink : Linking.typeRefErrors schema argument.type place = [])
    (hdefault : Defaults.valueErrors schema argument.type argument.default = [])
    (naming : Naming) (field : Field) :
    (argumentText schema naming field argument).isOk := by
  unfold argumentText
  exact isOk_bind (isOk_typeText hlink _) fun _ =>
    isOk_bind (isOk_defaultText hdefault naming) fun _ => rfl

theorem isOk_fieldLines {schema : Schema} {owner : String} {field : Field}
    (hlink : Linking.fieldErrors schema owner field = [])
    (hdefaults : Defaults.fieldErrors schema field = []) (naming : Naming) :
    (fieldLines schema naming field).isOk := by
  rw [Linking.fieldErrors, List.append_eq_nil_iff, List.flatMap_eq_nil_iff] at hlink
  rw [Defaults.fieldErrors, List.append_eq_nil_iff, List.flatMap_eq_nil_iff] at hdefaults
  have harguments : ∀ argument ∈ field.arguments.values,
      (argumentText schema naming field argument).isOk := fun argument hmem =>
    isOk_argumentText (hlink.2 argument hmem) (hdefaults.2 argument hmem) naming field
  unfold fieldLines
  refine isOk_bind (isOk_typeText hlink.1 _) fun _ => ?_
  simp only []
  split
  · rfl
  · split
    · refine isOk_bind ?_ fun _ => rfl
      rw [isOk_mapM, List.all_eq_true]
      intro argument hmem
      exact isOk_bind (harguments argument hmem) fun _ => rfl
    · refine isOk_bind ?_ fun _ => rfl
      rw [isOk_mapM, List.all_eq_true]
      exact harguments

/-- A field of an input object prints its default, but no arguments. -/
theorem isOk_inputFieldLines {schema : Schema} {field : Field} {place : Place}
    (hlink : Linking.typeRefErrors schema field.type place = [])
    (hdefaults : Defaults.fieldErrors schema field = []) (naming : Naming) :
    (inputFieldLines schema naming field).isOk := by
  rw [Defaults.fieldErrors, List.append_eq_nil_iff] at hdefaults
  unfold inputFieldLines
  exact isOk_bind (isOk_typeText hlink _) fun _ =>
    isOk_bind (isOk_defaultText hdefaults.1 naming) fun _ => rfl

/-! ## Types -/

theorem isOk_withFields {header : String} {fields : FieldMap}
    {print : Field → Except CompileError (List Line)}
    (h : ∀ field ∈ fields.values, (print field).isOk) : (withFields header fields print).isOk := by
  unfold withFields
  refine isOk_bind ?_ fun _ => rfl
  rw [isOk_mapM, List.all_eq_true]
  intro field hmem
  exact isOk_bind (h field hmem) fun _ => rfl

theorem isOk_withFields_fieldLines {schema : Schema} {owner header : String} {fields : FieldMap}
    (hlinks : fields.values.flatMap (Linking.fieldErrors schema owner) = [])
    (hdefaults : ∀ field ∈ fields.values, Defaults.fieldErrors schema field = [])
    (naming : Naming) : (withFields header fields (fieldLines schema naming)).isOk := by
  rw [List.flatMap_eq_nil_iff] at hlinks
  exact isOk_withFields fun field hmem =>
    isOk_fieldLines (hlinks field hmem) (hdefaults field hmem) naming

theorem isOk_typeLines {schema : Schema} {type : TypeDef}
    (hlinks : Linking.bodyErrors schema type.name type.body = [])
    (hdefaults : ∀ field ∈ type.fieldList, Defaults.fieldErrors schema field = [])
    (naming : Naming) : (typeLines schema naming type).isOk := by
  unfold typeLines
  refine isOk_bind ?_ fun _ => rfl
  unfold TypeDef.fieldList TypeDef.fields? at hdefaults
  cases hbody : type.body with
  | object interfaces fields imports =>
    rw [hbody, Linking.bodyErrors, List.append_eq_nil_iff] at hlinks
    rw [hbody] at hdefaults
    exact isOk_withFields_fieldLines hlinks.2 hdefaults naming
  | interface interfaces fields imports implementors =>
    rw [hbody, Linking.bodyErrors, List.append_eq_nil_iff] at hlinks
    rw [hbody] at hdefaults
    exact isOk_withFields_fieldLines hlinks.2 hdefaults naming
  | inputObject fields imports =>
    rw [hbody, Linking.bodyErrors, List.flatMap_eq_nil_iff] at hlinks
    rw [hbody] at hdefaults
    exact isOk_withFields fun field hmem =>
      isOk_inputFieldLines (hlinks field hmem) (hdefaults field hmem) naming
  | union members => rfl
  | enum values => rfl
  | scalar builtin => rfl

/-! ## Schemas -/

/-- A schema prints if linking and the check of defaults find nothing. -/
theorem isOk_print {schema : Schema} (hlinks : Linking.errors schema = [])
    (hdefaults : Defaults.errors schema = []) (style : Style) : (print schema style).isOk := by
  rw [Linking.errors, List.append_eq_nil_iff, List.flatMap_eq_nil_iff] at hlinks
  simp only [Defaults.errors, List.flatMap_eq_nil_iff] at hdefaults
  unfold print lines
  refine isOk_bind (isOk_bind ?_ fun _ => rfl) fun _ => rfl
  rw [isOk_mapM, List.all_eq_true]
  intro type hmem
  have htype : type ∈ schema.typeList := (List.mem_filter.1 hmem).1
  exact isOk_typeLines (hlinks.2 type htype) (hdefaults type htype) style.naming

end GraphSchema.Sdl
