import GraphSchema.Proofs.Imports.Origins
import GraphSchema.Proofs.Imports.Reordering
import GraphSchema.Proofs.Lint
import GraphSchema.Proofs.Pipeline.Outcome

/-!
# Compiling in another order

Reordered schemas stop in the same phase or compile to the same definitions. Only the implementors
of an interface come in the order in which types are registered, and no later phase looks at them.
-/

namespace GraphSchema

/-! ## Alike definitions -/

/-- The same definition, but that the implementors of an interface may come in another order. -/
inductive TypeDef.Alike : TypeDef → TypeDef → Prop
  | same (type : TypeDef) : Alike type type
  | interface (name : String) (description moduleName : Option String) (interfaces : List String)
      (fields : FieldMap) (imports : List FieldImport) {implementors others : List String} :
      implementors.Perm others →
      Alike ⟨name, description, moduleName, .interface interfaces fields imports implementors⟩
        ⟨name, description, moduleName, .interface interfaces fields imports others⟩

/-- The same roots, and alike definitions under the same names. -/
structure Schema.Alike (first second : Schema) : Prop where
  roots : first.roots = second.roots
  types : ∀ name, Option.Rel TypeDef.Alike (first.find? name) (second.find? name)

theorem Schema.forall_typeList_iff {schema : Schema} {P : TypeDef → Prop} :
    (∀ type ∈ schema.typeList, P type) ↔
      ∀ name type, schema.find? name = some type → P type := by
  simp only [Schema.typeList, OrderedMap.mem_values_iff, forall_exists_index]
  exact forall_comm

namespace Schema.Alike

variable {first second : Schema} (h : first.Alike second)
include h

theorem find? (name : String) : first.find? name = none ∧ second.find? name = none ∨
    ∃ type other, first.find? name = some type ∧ second.find? name = some other ∧
      type.Alike other := by
  have htype := h.types name
  generalize first.find? name = found at htype
  generalize second.find? name = found' at htype
  cases htype with
  | some halike => exact .inr ⟨_, _, rfl, rfl, halike⟩
  | none => exact .inl ⟨rfl, rfl⟩

theorem contains (name : String) : first.contains name = second.contains name := by
  change (first.find? name).isSome = (second.find? name).isSome
  rcases h.find? name with ⟨hfirst, hsecond⟩ | ⟨_, _, hfirst, hsecond, -⟩
  · rw [hfirst, hsecond]
  · rw [hfirst, hsecond]
    rfl

/-- What holds of every type of one schema and passes between alike ones holds in the other. -/
theorem forall_iff {P Q : TypeDef → Prop}
    (hpass : ∀ type other, type.Alike other → (P type ↔ Q other)) :
    (∀ type ∈ first.typeList, P type) ↔ ∀ type ∈ second.typeList, Q type := by
  rw [forall_typeList_iff, forall_typeList_iff]
  refine forall_congr' fun name => ?_
  rcases h.find? name with ⟨hfirst, hsecond⟩ | ⟨type, other, hfirst, hsecond, halike⟩
  · simp [hfirst, hsecond]
  · simp [hfirst, hsecond, hpass type other halike]

end Schema.Alike

/-! ## Linking -/

namespace Linking

theorem perm_typeList {first second : Schema} (h : first.Reordered second) :
    first.typeList.Perm second.typeList :=
  h.types.map Prod.snd

theorem key_of_find?_interface {schema : Schema} (hkeyed : schema.types.KeyedBy TypeDef.name)
    {name : String} {entry : String × TypeDef}
    (h : (schema.types.entries.find? fun entry =>
      entry.2.kind == .interface && entry.2.name == name) = some entry) :
    entry.1 = name ∧ schema.find? name = some entry.2 ∧ entry.2.kind = .interface := by
  have hmem := List.mem_of_find?_eq_some h
  have hsat := List.find?_some h
  simp only [Bool.and_eq_true, beq_iff_eq] at hsat
  obtain rfl : entry.1 = name := (hkeyed _ hmem).symm.trans hsat.2
  exact ⟨rfl, OrderedMap.get?_eq_some_iff.2 hmem, hsat.1⟩

/-- Under its own name, an interface is the only one of that name. -/
theorem firstInterface?_eq_some_iff {schema : Schema} (hkeyed : schema.types.KeyedBy TypeDef.name)
    {name key : String} : firstInterface? schema name = some key ↔
      key = name ∧ ∃ type, schema.find? name = some type ∧ type.kind = .interface := by
  unfold firstInterface?
  rw [Option.map_eq_some_iff]
  constructor
  · rintro ⟨entry, hfind, rfl⟩
    obtain ⟨hname, hfound, hkind⟩ := key_of_find?_interface hkeyed hfind
    exact ⟨hname, entry.2, hfound, hkind⟩
  · rintro ⟨rfl, type, hfound, hkind⟩
    have hsome : (schema.types.entries.find? fun entry =>
        entry.2.kind == .interface && entry.2.name == key).isSome := by
      rw [List.find?_isSome]
      exact ⟨(key, type), OrderedMap.get?_eq_some_iff.1 hfound, by
        simp [hkind, hkeyed.of_get? hfound]⟩
    obtain ⟨entry, hfind⟩ := Option.isSome_iff_exists.1 hsome
    exact ⟨entry, hfind, (key_of_find?_interface hkeyed hfind).1⟩

theorem perm_implementorsFor {first second : Schema}
    (hkeyed : first.types.KeyedBy TypeDef.name) (h : first.Reordered second) (key name : String) :
    (implementorsFor first key name).Perm (implementorsFor second key name) := by
  have hkeyed' := Imports.keyedBy_congr h.find? hkeyed
  have hsame : firstInterface? first name = some key ↔ firstInterface? second name = some key := by
    rw [firstInterface?_eq_some_iff hkeyed, firstInterface?_eq_some_iff hkeyed', h.find?]
  unfold implementorsFor
  by_cases hkey : firstInterface? first name = some key
  · rw [if_pos hkey, if_pos (hsame.1 hkey)]
    exact (perm_typeList h).flatMap_right _
  · rw [if_neg hkey, if_neg (mt hsame.2 hkey)]

theorem alike_linked {first second : Schema} (hkeyed : first.types.KeyedBy TypeDef.name)
    (h : first.Reordered second) : (linked first).Alike (linked second) := by
  refine ⟨h.roots, ?_⟩
  intro key
  rw [find?_linked, find?_linked, h.find?]
  cases second.find? key with
  | none => exact .none
  | some type =>
    refine .some ?_
    rw [linkedType_eq, linkedType_eq]
    cases type.body with
    | interface => exact .interface _ _ _ _ _ _ (perm_implementorsFor hkeyed h key type.name)
    | _ => exact .same _

variable {first second : Schema} (h : first.Alike second)
include h

theorem refError_alike : refError first = refError second := by
  funext name place accepts otherwise
  unfold refError
  rcases h.find? name with ⟨hfirst, hsecond⟩ | ⟨type, other, hfirst, hsecond, halike⟩
  · rw [hfirst, hsecond]
  · rw [hfirst, hsecond]
    cases halike <;> rfl

theorem bodyErrors_alike {type other : TypeDef} (halike : type.Alike other) :
    bodyErrors first type.name type.body = bodyErrors second other.name other.body := by
  have hinterface : interfaceErrors first = interfaceErrors second := by
    funext type name
    simp only [interfaceErrors, refError_alike h]
  have hmember : memberErrors first = memberErrors second := by
    funext type name
    simp only [memberErrors, refError_alike h]
  have href : typeRefErrors first = typeRefErrors second := by
    funext type place
    simp only [typeRefErrors, h.contains]
  have hfield : fieldErrors first = fieldErrors second := by
    funext type field
    simp only [fieldErrors, href]
  have hbody : bodyErrors first = bodyErrors second := by
    funext type body
    cases body <;> simp only [bodyErrors, hinterface, hmember, hfield, href]
  rw [hbody]
  cases halike <;> rfl

theorem errors_eq_nil_iff_alike : errors first = [] ↔ errors second = [] := by
  have hroots : rootErrors first = rootErrors second := by
    simp only [rootErrors, refError_alike h, h.roots]
  simp only [errors, List.append_eq_nil_iff, List.flatMap_eq_nil_iff, hroots]
  refine and_congr_right fun _ => h.forall_iff fun type other halike => ?_
  rw [bodyErrors_alike h halike]

end Linking

/-! ## Checks of alike schemas -/

section Checks

variable {first second : Schema} (h : first.Alike second)
include h

theorem Lint.lints_eq_nil_iff_alike :
    standard.flatMap (·.check first) = [] ↔ standard.flatMap (·.check second) = [] := by
  rw [lints_eq_nil_iff, lints_eq_nil_iff]
  simp only [Schema.authored, List.mem_filter, and_imp]
  refine and_congr (h.forall_iff ?_) (h.forall_iff ?_) <;>
    · intro type other halike
      cases halike <;> rfl

theorem Conformance.errors_eq_nil_iff_alike : errors first = [] ↔ errors second = [] := by
  simp only [errors, List.flatMap_eq_nil_iff]
  have hinterface : interfaceErrors first = interfaceErrors second := by
    funext type name
    unfold interfaceErrors
    rcases h.find? name with ⟨hfirst, hsecond⟩ | ⟨interface, other, hfirst, hsecond, halike⟩
    · rw [hfirst, hsecond]
    · rw [hfirst, hsecond]
      cases halike <;> rfl
  refine h.forall_iff fun type other halike => ?_
  rw [hinterface]
  cases halike <;> rfl

theorem Defaults.errors_eq_nil_iff_alike : errors first = [] ↔ errors second = [] := by
  have hnamed : ∀ input name value,
      Sdl.namedLiteral first input name value = Sdl.namedLiteral second input name value := by
    intro input name value
    unfold Sdl.namedLiteral
    rcases h.find? name with ⟨hfirst, hsecond⟩ | ⟨type, other, hfirst, hsecond, halike⟩
    · rw [hfirst, hsecond]
    · rw [hfirst, hsecond]
      cases halike <;> rfl
  have hvalue : valueErrors first = valueErrors second := by
    funext type default
    cases default with
    | none => rfl
    | some value => simp only [valueErrors, Sdl.literal_congr hnamed]
  have hfield : fieldErrors first = fieldErrors second := by
    funext field
    simp only [fieldErrors, hvalue]
  simp only [errors, List.flatMap_eq_nil_iff, hfield]
  refine h.forall_iff fun type other halike => ?_
  cases halike <;> rfl

end Checks

/-! ## Outcomes -/

namespace Pipeline

/-- Both results are good and related, or both are errors of one phase. -/
inductive Agree (Related : Schema → Schema → Prop) :
    Except PipelineError Schema → Except PipelineError Schema → Prop
  | ok {first second : Schema} : Related first second → Agree Related (.ok first) (.ok second)
  | error {error other : PipelineError} : error.phase = other.phase →
      Agree Related (.error error) (.error other)

/-- Without plugins, a phase goes first and the others work on its output. -/
theorem result_runPhases_cons (phase : Phase) (rest : List Phase) (schema : Schema) :
    (runPhases [] (phase :: rest) schema).result =
      match phase.run schema with
      | .ok output => (runPhases [] rest output).result
      | .error errors => .error ⟨phase.name, errors⟩ := by
  simp only [runPhases, runPhase, result_bind, beforeHooks, afterHooks, work, Run.pure]
  cases phase.run schema <;> rfl

variable {Related : Schema → Schema → Prop} {phase : Phase} {rest : List Phase}
  {first second : Schema}

theorem agree_cons (hok : (phase.run first).isOk = (phase.run second).isOk)
    (hrest : ∀ output output', phase.run first = .ok output → phase.run second = .ok output' →
      Agree Related (runPhases [] rest output).result (runPhases [] rest output').result) :
    Agree Related (runPhases [] (phase :: rest) first).result
      (runPhases [] (phase :: rest) second).result := by
  rw [result_runPhases_cons, result_runPhases_cons]
  cases hfirst : phase.run first <;> cases hsecond : phase.run second
  · exact .error rfl
  · rw [hfirst, hsecond] at hok
    cases hok
  · rw [hfirst, hsecond] at hok
    cases hok
  · exact hrest _ _ hfirst hsecond

/-- A phase that checks and then changes a schema. -/
theorem agree_unless {errors : Schema → List CompileError} {change : Schema → Schema}
    (hrun : ∀ schema, phase.run schema = Checked.unless (errors schema) (change schema))
    (herrors : errors first = [] ↔ errors second = [])
    (hrest : Agree Related (runPhases [] rest (change first)).result
      (runPhases [] rest (change second)).result) :
    Agree Related (runPhases [] (phase :: rest) first).result
      (runPhases [] (phase :: rest) second).result := by
  refine agree_cons ?_ ?_
  · rw [hrun, hrun]
    by_cases hnil : errors first = []
    · rw [hnil, herrors.1 hnil]
      rfl
    · rw [Checked.unless_of_ne_nil hnil, Checked.unless_of_ne_nil (mt herrors.2 hnil)]
      rfl
  · intro output output' hfirst hsecond
    rw [hrun] at hfirst hsecond
    obtain ⟨-, rfl⟩ := Checked.unless_eq_ok_iff.1 hfirst
    obtain ⟨-, rfl⟩ := Checked.unless_eq_ok_iff.1 hsecond
    exact hrest

/-- Compiling does not depend on the order of registration: reordered schemas fail in the same
phase, or compile to the same roots and to the same definitions under every name, but for the order
of implementors. -/
theorem compile_reordered {first second : Schema} (hkeyed : first.types.KeyedBy TypeDef.name)
    (h : first.Reordered second) :
    Agree Schema.Alike ((standard []).compile first) ((standard []).compile second) := by
  obtain ⟨hok, hreordered⟩ := Imports.run_reordered hkeyed h
  refine agree_cons hok ?_
  intro imported imported' himports himports'
  have halike : (Linking.linked imported).Alike (Linking.linked imported') :=
    Linking.alike_linked (Imports.keyedBy_of_run himports hkeyed)
      (hreordered imported imported' himports himports')
  have hlinks : Linking.errors imported = [] ↔ Linking.errors imported' = [] := by
    rw [← Linking.errors_linked, ← Linking.errors_linked imported']
    exact Linking.errors_eq_nil_iff_alike halike
  refine agree_unless Linking.run_eq hlinks ?_
  refine agree_unless (fun _ => rfl) (Lint.lints_eq_nil_iff_alike halike) ?_
  refine agree_unless (fun _ => rfl) (Conformance.errors_eq_nil_iff_alike halike) ?_
  refine agree_unless (fun _ => rfl) (Defaults.errors_eq_nil_iff_alike halike) ?_
  refine agree_cons rfl ?_
  rintro output output' ⟨⟩ ⟨⟩
  rw [Hydration.run_eq, Hydration.run_eq]
  exact .ok ⟨halike.roots, halike.types⟩

/-- `Query` and `Disc` take the field of the interface that they implement. All types are
registered in one order or in the opposite one. -/
def shelf (reversed : Bool) : Schema :=
  let title : FieldMap := .ofFields "Titled" [{ name := "title", type := .named "String" }]
  let titled (name : String) : TypeDef :=
    { name, body := .object ["Titled"] .empty [{ source := "Titled" }] }
  let types := [titled "Query", { name := "Titled", body := .interface [] title [] [] },
    titled "Disc"]
  Schema.build { query := some "Query" } (if reversed then types.reverse else types)

theorem compile_reordered_shelf : (shelf false).types.KeyedBy TypeDef.name ∧
    (shelf false).Reordered (shelf true) ∧
      ∃ compiled compiled', (standard []).compile (shelf false) = .ok compiled ∧
        (standard []).compile (shelf true) = .ok compiled' ∧ compiled.Alike compiled' ∧
        compiled.authored.map (·.name) = ["Query", "Titled", "Disc"] ∧
        compiled'.authored.map (·.name) = ["Disc", "Titled", "Query"] := by
  have hkeyed : (shelf false).types.KeyedBy TypeDef.name := by decide
  have hreordered : (shelf false).Reordered (shelf true) :=
    -- The built-in scalars stay in front.
    ⟨rfl, (List.reverse_perm _).symm.append_left Schema.initial.types.entries⟩
  have hnames : ∀ reversed, ((standard []).compile (shelf reversed)).toOption.map
      (fun compiled => compiled.authored.map (·.name)) =
        some (if reversed then ["Disc", "Titled", "Query"] else ["Query", "Titled", "Disc"]) := by
    rintro (_ | _) <;> cbv
  obtain ⟨compiled, hcompile, hfirst⟩ := toOption_map_eq_some_iff.1 (hnames false)
  obtain ⟨compiled', hcompile', hsecond⟩ := toOption_map_eq_some_iff.1 (hnames true)
  have hagree := compile_reordered hkeyed hreordered
  rw [hcompile, hcompile'] at hagree
  cases hagree with
  | ok halike =>
    exact ⟨hkeyed, hreordered, compiled, compiled', hcompile, hcompile', halike, hfirst, hsecond⟩

end Pipeline

end GraphSchema
