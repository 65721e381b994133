import Mathlib.Data.List.Nodup
import GraphSchema.Proofs.Reachable
import GraphSchema.Proofs.Sdl.Extension

/-!
# Visits

Hydrators are shown the tree of a schema from the top down: each node once, under the chain of nodes
that own it. What they return for a node goes to that node and to no other.
-/

namespace GraphSchema

/-! ## The tree of a schema -/

/-- The nodes right below a node, in order. -/
def Schema.owned (schema : Schema) : Node → List Node
  | .schema _ => schema.typeList.map .type
  | .type type =>
    match type.body with
    | .enum values => values.values.map .enumValue
    | _ => type.fieldList.map .field
  | .field field => field.arguments.values.map .argument
  | .argument _ | .enumValue _ => []

namespace Hydration

/-- A way down from the schema: each node is owned by the one before it. -/
inductive Lineage (schema : Schema) : List Node → Prop where
  | root : Lineage schema [.schema schema.roots]
  | step {owners : List Node} {owner node : Node} (above : Lineage schema (owners ++ [owner]))
      (owned : node ∈ schema.owned owner) : Lineage schema (owners ++ [owner] ++ [node])

/-- What is seen on a walk over the nodes, all of the same owners: each node with its owners, and
right behind it everything below it. -/
inductive Walk (schema : Schema) : List Node → List Node → List (Node × List Node) → Prop where
  | nil {owners : List Node} : Walk schema owners [] []
  | cons {owners nodes : List Node} {node : Node} {below beside : List (Node × List Node)}
      (inside : Walk schema (owners ++ [node]) (schema.owned node) below)
      (rest : Walk schema owners nodes beside) :
      Walk schema owners (node :: nodes) ((node, owners) :: below ++ beside)

namespace Walk

variable {schema : Schema} {owners : List Node} {α : Type} {items : List α} {node : α → Node}

theorem flatMap {below : α → List (Node × List Node)}
    (h : ∀ item ∈ items,
      Walk schema (owners ++ [node item]) (schema.owned (node item)) (below item)) :
    Walk schema owners (items.map node)
      (items.flatMap fun item => (node item, owners) :: below item) := by
  induction items with
  | nil => exact .nil
  | cons item rest ih =>
    rw [List.forall_mem_cons] at h
    exact .cons h.1 (ih h.2)

theorem leaves (h : ∀ item ∈ items, schema.owned (node item) = []) :
    Walk schema owners (items.map node) (items.map fun item => (node item, owners)) := by
  induction items with
  | nil => exact .nil
  | cons item rest ih =>
    rw [List.forall_mem_cons] at h
    exact cons (h.1.symm ▸ nil) (ih h.2)

/-- The tree leaves a walk no choice. -/
theorem unique {nodes : List Node} {seen other : List (Node × List Node)}
    (h : Walk schema owners nodes seen) (hother : Walk schema owners nodes other) :
    seen = other := by
  induction h generalizing other with
  | nil =>
    cases hother
    rfl
  | cons _ _ ihinside ihrest =>
    cases hother with
    | cons inside rest => rw [ihinside inside, ihrest rest]

/-- The owners that come with a node lead down to it. -/
theorem lineage {nodes : List Node} {seen : List (Node × List Node)}
    (h : Walk schema owners nodes seen)
    (hnodes : ∀ node ∈ nodes, Lineage schema (owners ++ [node])) :
    ∀ visit ∈ seen, Lineage schema (visit.2 ++ [visit.1]) := by
  induction h with
  | nil => nofun
  | cons _ _ ihinside ihrest =>
    rw [List.forall_mem_cons] at hnodes
    rw [List.cons_append, List.forall_mem_cons, List.forall_mem_append]
    exact ⟨hnodes.1, ihinside fun child hchild => .step hnodes.1 hchild, ihrest hnodes.2⟩

end Walk

/-! ## The order of visits -/

def Visit.shown (visit : Visit) : Node × List Node := (visit.node, visit.owners)

section

variable (schema : Schema)

theorem walk_fields (owners : List Node) (type : TypeDef) (fields : List Field) :
    Walk schema owners (fields.map .field)
      ((fields.flatMap (fieldVisits owners type)).map Visit.shown) := by
  simp only [List.map_flatMap, fieldVisits, List.map_cons, List.map_map]
  exact .flatMap fun field _ => .leaves fun _ _ => rfl

theorem walk_type (type : TypeDef) :
    Walk schema [.schema schema.roots, .type type] (schema.owned (.type type))
      ((typeVisits (.schema schema.roots) type).map Visit.shown).tail := by
  obtain ⟨name, description, moduleName, body⟩ := type
  cases body with
  | enum values =>
    simp only [typeVisits, TypeDef.enumValues, TypeDef.fieldList, TypeDef.fields?, TypeBody.fields?,
      List.flatMap_nil, List.append_nil, List.map_cons, List.tail_cons, List.map_map]
    exact .leaves fun _ _ => rfl
  | object interfaces fields imports => exact walk_fields schema _ _ fields.values
  | interface interfaces fields imports implementors => exact walk_fields schema _ _ fields.values
  | inputObject fields imports => exact walk_fields schema _ _ fields.values
  | union | scalar => exact .nil

theorem walk_visits : Walk schema [] [.schema schema.roots] ((visits schema).map Visit.shown) := by
  have htypes : Walk schema [.schema schema.roots] (schema.typeList.map .type)
      ((schema.typeList.flatMap (typeVisits (.schema schema.roots))).map Visit.shown) := by
    rw [List.map_flatMap]
    exact .flatMap fun type _ => walk_type schema type
  have hwalk := @Walk.cons schema [] [] (.schema schema.roots) _ _ htypes .nil
  rwa [List.append_nil] at hwalk

end

/-! ## Addresses -/

/-- The address of a visit says what the node is, and spells its name behind those of its owners
below the schema. -/
structure Visit.Addressed (visit : Visit) : Prop where
  kind : visit.id.kind = visit.node.kind
  path : visit.id.path = (visit.owners ++ [visit.node]).tail.map Node.name

theorem forall_typeVisits {P : Visit → Prop} {root : Node} {type : TypeDef}
    (hself : P ⟨.type type, .type type.name, [root]⟩)
    (hvalues : ∀ value, P ⟨.enumValue value, .enumValue type.name value.key, [root, .type type]⟩)
    (hfields : ∀ field, P ⟨.field field, .field type.name field.name, [root, .type type]⟩)
    (harguments : ∀ field argument, P ⟨.argument argument,
      .argument type.name field.name argument.name, [root, .type type, .field field]⟩) :
    ∀ visit ∈ typeVisits root type, P visit := by
  simp only [typeVisits, fieldVisits, List.mem_append, List.mem_cons, List.mem_map,
    List.mem_flatMap]
  rintro _ ((rfl | ⟨value, -, rfl⟩) | ⟨field, -, rfl | ⟨argument, -, rfl⟩⟩)
  · exact hself
  · exact hvalues value
  · exact hfields field
  · exact harguments field argument

theorem addressed_typeVisits {root : Node} {type : TypeDef} :
    ∀ visit ∈ typeVisits root type, visit.Addressed ∧ visit.id.typeName? = some type.name :=
  forall_typeVisits ⟨⟨rfl, rfl⟩, rfl⟩ (fun _ => ⟨⟨rfl, rfl⟩, rfl⟩) (fun _ => ⟨⟨rfl, rfl⟩, rfl⟩)
    fun _ _ => ⟨⟨rfl, rfl⟩, rfl⟩

theorem addressed_visits {schema : Schema} : ∀ visit ∈ visits schema, visit.Addressed := by
  unfold visits
  rw [List.forall_mem_cons]
  refine ⟨⟨rfl, rfl⟩, fun visit hvisit => ?_⟩
  obtain ⟨type, -, hvisit⟩ := List.mem_flatMap.1 hvisit
  exact (addressed_typeVisits visit hvisit).1

/-- Blocks with labels of their own have nothing in common. -/
theorem nodup_flatMap {α β γ : Type} {items : List α} {block : α → List β} (own : α → γ)
    (label : β → Option γ) (hown : (items.map own).Nodup)
    (hblock : ∀ item ∈ items, (block item).Nodup)
    (hlabel : ∀ item ∈ items, ∀ x ∈ block item, label x = some (own item)) :
    (items.flatMap block).Nodup := by
  refine List.nodup_flatMap.2 ⟨hblock, ?_⟩
  refine (List.pairwise_map.1 hown).imp_of_mem fun hitem hother hne x hx hx' => hne ?_
  exact Option.some.inj ((hlabel _ hitem x hx).symm.trans (hlabel _ hother x hx'))

section

variable {type : TypeDef} (h : type.WellFormed)
include h

theorem nodup_fieldVisits (owners : List Node) {field : Field} (hfield : field ∈ type.fieldList) :
    ((fieldVisits owners type field).map Visit.id).Nodup := by
  have hids : (fieldVisits owners type field).map Visit.id = .field type.name field.name ::
      (field.arguments.values.map Argument.name).map (.argument type.name field.name) := by
    simp [fieldVisits, Function.comp_def]
  rw [hids, List.nodup_cons]
  exact ⟨by simp, (h.arguments hfield).once.map fun _ _ heq => (NodeId.argument.inj heq).2.2⟩

theorem nodup_typeVisits (root : Node) : ((typeVisits root type).map Visit.id).Nodup := by
  have hids : (typeVisits root type).map Visit.id = .type type.name ::
      ((type.enumValues.map EnumValue.key).map (.enumValue type.name) ++
        type.fieldList.flatMap fun field =>
          (fieldVisits [root, .type type] type field).map Visit.id) := by
    simp [typeVisits, Function.comp_def, List.map_flatMap]
  have hvalues := h.nodup_valueKeys.map fun _ _ heq => (@NodeId.enumValue.inj type.name _ _ _ heq).2
  have hfields := nodup_flatMap Field.name (fun id => id.path[1]?) h.nodup_fieldNames
    (fun field hfield => nodup_fieldVisits h [root, .type type] hfield)
    (by simp [fieldVisits, NodeId.path])
  rw [hids, List.nodup_cons, List.nodup_append]
  refine ⟨by simp [fieldVisits], hvalues, hfields, fun id hvalue other hfield heq => ?_⟩
  obtain ⟨key, -, rfl⟩ := List.mem_map.1 hvalue
  subst heq
  simp [fieldVisits] at hfield

end

theorem nodup_visits {schema : Schema} (h : schema.WellFormed) :
    ((visits schema).map Visit.id).Nodup := by
  rw [visits, List.map_cons, List.map_flatMap, List.nodup_cons]
  constructor
  · simp only [List.mem_flatMap, List.mem_map]
    rintro ⟨type, -, visit, hvisit, hid⟩
    have hname := (addressed_typeVisits visit hvisit).2
    rw [hid] at hname
    cases hname
  · refine nodup_flatMap TypeDef.name NodeId.typeName? h.names.once
      (fun type htype => nodup_typeVisits (h.types type htype) _) fun type _ id hid => ?_
    obtain ⟨visit, hvisit, rfl⟩ := List.mem_map.1 hid
    exact (addressed_typeVisits visit hvisit).2

/-! ## Names -/

/-- Whether the visited node was authored: the schema and the built-in scalars were not. -/
def Visit.isAuthored (visit : Visit) : Bool :=
  match visit.node with
  | .schema _ => false
  | .type type => !type.isBuiltin
  | _ => true

def Visit.named (visit : Visit) : String × NodeId := (visit.node.name, visit.id)

theorem isAuthored_typeVisits {root : Node} {type : TypeDef} (h : ¬type.isBuiltin) :
    ∀ visit ∈ typeVisits root type, visit.isAuthored := by
  refine forall_typeVisits ?_ (fun _ => rfl) (fun _ => rfl) fun _ _ => rfl
  simpa [Visit.isAuthored] using h

theorem named_fieldVisits (owners : List Node) (type : TypeDef) (field : Field) :
    (fieldVisits owners type field).map Visit.named = fieldNodes type field := by
  simp only [fieldVisits, List.map_cons, List.map_map]
  rfl

/-- A type has no fields or no values, so it does not matter which of them come first. -/
theorem named_typeVisits (root : Node) (type : TypeDef) :
    (typeVisits root type).map Visit.named = typeNodes type := by
  have hnone : type.enumValues = [] ∨ type.fieldList = [] := by
    obtain ⟨name, description, moduleName, body⟩ := type
    cases body with
    | enum => exact .inr rfl
    | object | interface | inputObject | union | scalar => exact .inl rfl
  simp only [typeVisits, typeNodes, List.map_append, List.map_cons, List.map_map, List.map_flatMap,
    named_fieldVisits]
  rcases hnone with hvalues | hfields
  · rw [hvalues]
    simp [Visit.named, Node.name]
  · rw [hfields]
    simp [Visit.named, Node.name, Function.comp_def]

theorem filter_typeVisits_of_isBuiltin {root : Node} {type : TypeDef} (h : type.isBuiltin) :
    (typeVisits root type).filter Visit.isAuthored = [] := by
  obtain ⟨name, description, moduleName, body⟩ := type
  cases body with
  | scalar builtin =>
    cases h
    rfl
  | object | interface | inputObject | union | enum => cases h

theorem named_visits (schema : Schema) :
    ((visits schema).filter Visit.isAuthored).map Visit.named = schema.namedNodes := by
  have htypes : ∀ types : List TypeDef,
      ((types.flatMap (typeVisits (.schema schema.roots))).filter Visit.isAuthored).map
          Visit.named =
        (types.filter (!·.isBuiltin)).flatMap typeNodes := by
    intro types
    induction types with
    | nil => rfl
    | cons type rest ih =>
      rw [List.flatMap_cons, List.filter_append, List.map_append, ih]
      by_cases hbuiltin : type.isBuiltin
      · rw [filter_typeVisits_of_isBuiltin hbuiltin, List.filter_cons_of_neg (by simp [hbuiltin])]
        rfl
      · rw [List.filter_eq_self.2 (isAuthored_typeVisits hbuiltin), named_typeVisits,
          List.filter_cons_of_pos (by simp [hbuiltin]), List.flatMap_cons]
  exact htypes schema.typeList

/-! ## Behaviors -/

theorem flatMap_written (hydrators : List Hydrator) (visits : List Visit) :
    visits.flatMap (written hydrators) =
      (visits.filter fun visit => behaviorsFor hydrators visit ≠ []).map
        fun visit => (visit.id, behaviorsFor hydrators visit) := by
  induction visits with
  | nil => rfl
  | cons visit rest ih =>
    rw [List.flatMap_cons, ih, written]
    cases h : behaviorsFor hydrators visit <;> simp [h]

section

variable (hydrators : List Hydrator) {schema : Schema}

theorem get?_run_of_not_mem {id : NodeId} (h : id ∉ (visits schema).map Visit.id) :
    (run hydrators schema).behaviors.get? id = schema.behaviors.get? id := by
  rw [run_eq]
  refine OrderedMap.get?_insertAll_of_not_mem _ fun hid => h ?_
  rw [flatMap_written, List.map_map] at hid
  exact List.map_subset _ (List.filter_subset_self _) hid

theorem get?_run {visit : Visit} (hids : ((visits schema).map Visit.id).Nodup)
    (h : visit ∈ visits schema) :
    (run hydrators schema).behaviors.get? visit.id =
      if behaviorsFor hydrators visit = [] then schema.behaviors.get? visit.id
      else some (behaviorsFor hydrators visit) := by
  rw [run_eq]
  split
  · rename_i hnone
    refine OrderedMap.get?_insertAll_of_not_mem _ fun hid => ?_
    rw [flatMap_written, List.map_map] at hid
    obtain ⟨other, hother, heq⟩ := List.mem_map.1 hid
    obtain ⟨hmem, hsome⟩ := List.mem_filter.1 hother
    -- Only this visit has its address, so no other one can have written there.
    have hsame : other = visit := List.inj_on_of_nodup_map hids hmem h heq
    rw [hsame, decide_eq_true_iff] at hsome
    exact hsome hnone
  · rename_i hsome
    refine OrderedMap.get?_insertAll_of_mem _ ?_ ?_
    · rw [flatMap_written, List.map_map]
      exact hids.sublist (List.filter_sublist.map _)
    · rw [flatMap_written]
      exact List.mem_map.2 ⟨visit, List.mem_filter.2 ⟨h, by simpa using hsome⟩, rfl⟩

end

/-- How the visits go through a schema: over its tree from the top down, to each address once, under
the owners that lead there, and past the same names as the lints. -/
structure Traversal (schema : Schema) : Prop where
  order : ∀ seen, Walk schema [] [.schema schema.roots] seen ↔
    seen = (visits schema).map Visit.shown
  owners : ∀ visit ∈ visits schema, Lineage schema (visit.owners ++ [visit.node])
  addresses : ∀ visit ∈ visits schema, visit.Addressed
  once : ((visits schema).map Visit.id).Nodup
  names : ((visits schema).filter Visit.isAuthored).map Visit.named = schema.namedNodes

/-- What hydration makes of a schema. -/
structure Hydrated (hydrators : List Hydrator) (schema result : Schema) : Prop where
  visited : ∀ visit ∈ visits schema, result.behaviors.get? visit.id =
    if behaviorsFor hydrators visit = [] then schema.behaviors.get? visit.id
    else some (behaviorsFor hydrators visit)
  others : ∀ id ∉ (visits schema).map Visit.id,
    result.behaviors.get? id = schema.behaviors.get? id
  types : result.types = schema.types
  roots : result.roots = schema.roots
  text : ∀ style, Sdl.print result style = Sdl.print schema style

/-- Addresses are distinct because everything stands under its own name, and that is why no node
gets what was meant for another. -/
theorem hydrate_each_node {schema : Schema} (h : schema.Reachable) (hydrators : List Hydrator) :
    Traversal schema ∧ ∃ result, (Phase.hydrate hydrators).run schema = .ok result ∧
      Hydrated hydrators schema result := by
  have hids := nodup_visits h.wellFormed
  have hwalk := walk_visits schema
  refine ⟨?_, run hydrators schema, rfl, ?_⟩
  · refine ⟨fun seen => ⟨fun h => h.unique hwalk, fun h => h ▸ hwalk⟩, fun visit hvisit => ?_,
      addressed_visits, hids, named_visits schema⟩
    exact hwalk.lineage (List.forall_mem_singleton.2 .root) visit.shown
      (List.mem_map_of_mem hvisit)
  · refine ⟨fun _ hvisit => get?_run hydrators hids hvisit,
      fun _ hid => get?_run_of_not_mem hydrators hid, ?_, ?_, fun style => ?_⟩ <;> rw [run_eq]
    exact Sdl.print_withBehaviors schema _ style

/-- The gallery with a price at its picture's title and a check at its style. -/
def priced : Schema :=
  let schema := Schema.build { query := some "Query" } gallery
  (schema.attach (.field "Picture" "title") (.complexity 1)).attach (.type "Style") (.isTypeOf ⟨7⟩)

/-- A price for what is called a title, and one for every field by the number of its owners. -/
def prices : List Hydrator :=
  [⟨fun node _ => if node.kind = .field ∧ node.name = "title" then [.complexity 5] else []⟩,
    ⟨fun node owners => if node.kind = .field then [.complexity owners.length] else []⟩]

theorem hydrate_each_node_priced : priced.Reachable ∧
    (Traversal priced ∧ ∃ result, (Phase.hydrate prices).run priced = .ok result ∧
      Hydrated prices priced result) ∧
    (run prices priced).behaviors.entries =
      [(.field "Picture" "title", [.complexity 5, .complexity 2]),
        (.type "Style", [.isTypeOf ⟨7⟩])] := by
  have hbuilt := Schema.reachable_build { query := some "Query" } gallery_assembled
  have hreachable : priced.Reachable := (hbuilt.attach _ _).attach _ _
  exact ⟨hreachable, hydrate_each_node hreachable prices, by cbv⟩

end Hydration

end GraphSchema
