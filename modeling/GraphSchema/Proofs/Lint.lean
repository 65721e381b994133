import GraphSchema.Compile.Lint
import GraphSchema.Results

/-!
# Schemas that the lints pass

The built-in lints find nothing if every authored type has valid, unreserved names that stay apart
when they print in camel case, and every enum has distinct aliases.
-/

namespace GraphSchema.Lint

theorem lints_eq_nil_iff {schema : Schema} :
    standard.flatMap (·.check schema) = [] ↔
      (∀ type ∈ schema.authored,
        (∀ node ∈ typeNodes type, nameErrors node = [] ∧ isReserved node.1 = false) ∧
          typeCollisions .camel type = []) ∧
      ∀ type ∈ schema.typeList, repeatedAliases [] type.enumValues = [] := by
  simp only [standard, naming, reservedPrefix, duplicateEnumAlias, printedName,
    Schema.namedNodes, List.flatMap_cons, List.flatMap_nil, List.append_nil, List.append_eq_nil_iff,
    List.flatMap_eq_nil_iff, List.map_eq_nil_iff, List.filter_eq_nil_iff, List.mem_flatMap]
  constructor
  · rintro ⟨hnames, hreserved, haliases, hcollisions⟩
    refine ⟨fun type htype => ⟨fun node hnode => ⟨?_, ?_⟩, hcollisions type htype⟩, haliases⟩
    · exact hnames node ⟨type, htype, hnode⟩
    · exact Bool.eq_false_iff.2 (hreserved node ⟨type, htype, hnode⟩)
  · rintro ⟨htypes, haliases⟩
    refine ⟨?_, ?_, haliases, fun type htype => (htypes type htype).2⟩
    · rintro node ⟨type, htype, hnode⟩
      exact ((htypes type htype).1 node hnode).1
    · rintro node ⟨type, htype, hnode⟩
      exact Bool.eq_false_iff.1 ((htypes type htype).1 node hnode).2

/-! ## Single lints -/

theorem nodup_of_collisions {scope : Scope} {print : String → String}
    {seen : List (String × String)} {names : List String}
    (h : collisions scope print seen names = []) :
    (names.map print).Nodup ∧ ∀ name ∈ names, print name ∉ seen.map Prod.fst := by
  induction names generalizing seen with
  | nil => simp
  | cons name rest ih =>
    unfold collisions at h
    split at h
    · cases h
    · rename_i hnew
      rw [Entries.get?_eq_none_iff] at hnew
      obtain ⟨hnodup, hout⟩ := ih h
      simp only [List.map_cons, List.mem_cons, not_or] at hout
      refine ⟨?_, ?_⟩
      · rw [List.map_cons, List.nodup_cons, List.mem_map]
        exact ⟨fun ⟨other, hother, heq⟩ => (hout other hother).1 heq, hnodup⟩
      · rw [List.forall_mem_cons]
        exact ⟨hnew, fun other hother => (hout other hother).2⟩

theorem nodup_of_repeatedAliases {seen : List String} {values : List EnumValue}
    (h : repeatedAliases seen values = []) :
    (values.map (·.aliasName)).Nodup ∧ ∀ value ∈ values, value.aliasName ∉ seen := by
  induction values generalizing seen with
  | nil => simp
  | cons value rest ih =>
    unfold repeatedAliases at h
    split at h
    · cases h
    · rename_i hnew
      obtain ⟨hnodup, hout⟩ := ih h
      simp only [List.mem_cons, not_or] at hout
      refine ⟨?_, ?_⟩
      · rw [List.map_cons, List.nodup_cons, List.mem_map]
        exact ⟨fun ⟨other, hother, heq⟩ => (hout other hother).1 heq, hnodup⟩
      · rw [List.forall_mem_cons]
        exact ⟨hnew, fun other hother => (hout other hother).2⟩

/-- A name of the language that is not reserved. -/
def Accepts (name : String) : Prop := Name.isValid name ∧ isReserved name = false

theorem isValid_of_nameErrors {name : String} {node : NodeId}
    (hnode : ∀ type key, node ≠ .enumValue type key) (h : nameErrors (name, node) = []) :
    Name.isValid name := by
  unfold nameErrors at h
  split at h
  · rename_i heq
    cases heq
    exact absurd rfl (hnode _ _)
  · rename_i heq
    cases heq
    split at h
    · cases h
    · rename_i hflaw
      rw [Name.isValid, hflaw, Option.isNone_none]

end GraphSchema.Lint
