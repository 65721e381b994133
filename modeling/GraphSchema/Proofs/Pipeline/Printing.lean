import GraphSchema.Command.Run
import GraphSchema.Proofs.Pipeline.Outcome
import GraphSchema.Proofs.Sdl.Printing

/-!
# Compiled schemas print

Once the built-in phases have accepted a schema, it prints in every style. So the command that
prints a schema succeeds on all modules that the command that checks them accepts.
-/

namespace GraphSchema.Pipeline

/-- Without an output file, the command prints the schema that the modules compile to. -/
theorem runSdl_of_print {m : Type → Type} [Monad m] [LawfulMonad m] (fs : Files.FileSystem m)
    {modules : List SchemaModule} {naming : Option Sdl.Naming} {schema : Schema} {sdl : String}
    (hcompile : Command.compile modules .standard = .ok schema)
    (hprint : Sdl.print schema { naming := naming.getD .camel } = .ok sdl) :
    Command.runSdl fs { naming } modules =
      pure (.success (Command.SdlReport.text { sdl }) []) := by
  have hcompiled : (Command.compileFor fs none modules).adapt
      (fun report => Command.Result.failure report.lines) = pure (schema, none) := by
    apply ExceptT.ext
    simp [Command.compileFor, hcompile, ExceptT.run_adapt, Except.mapError]
  simp only [Command.runSdl, hcompiled, Command.printTo, hprint, pure_bind]
  rfl

/-- Schemas that the built-in phases return always print, with any hydrators and plugins, under
any naming and with any indentation. In commands: of modules that `check` accepts, `sdl` prints the
schema. -/
theorem compiled_prints :
    (∀ (hydrators : List Hydration.Hydrator) (plugins : List Plugin) (schema compiled : Schema),
      { standard hydrators with plugins }.compile schema = .ok compiled →
        ∀ style, ∃ text, Sdl.print compiled style = .ok text) ∧
    ∀ (modules : List SchemaModule) (paths : List String) (report : Command.CheckReport),
      Command.check modules paths = .ok report →
        ∃ schema, Command.compile modules .standard = .ok schema ∧
          (∀ style, ∃ text, Sdl.print schema style = .ok text) ∧
          ∀ naming, ∃ output, ∀ (m : Type → Type) [Monad m] [LawfulMonad m]
            (fs : Files.FileSystem m),
            Command.runSdl fs { naming } modules = pure (.success output) := by
  have hprints : ∀ (hydrators : List Hydration.Hydrator) (plugins : List Plugin)
      (schema compiled : Schema),
      { standard hydrators with plugins }.compile schema = .ok compiled →
        ∀ style, ∃ text, Sdl.print compiled style = .ok text := by
    intro hydrators plugins schema compiled hcompile style
    have haccepted := accepted_of_compile hcompile
    exact isOk_iff.1 (Sdl.isOk_print haccepted.links haccepted.defaults style)
  refine ⟨hprints, ?_⟩
  intro modules paths report hcheck
  obtain ⟨schema, hcompile, -⟩ := bind_eq_ok_iff.1 hcheck
  obtain ⟨lowered, -, hphases⟩ := bind_eq_ok_iff.1 hcompile
  have hprint := hprints [] [] lowered schema (mapError_eq_ok_iff.1 hphases)
  refine ⟨schema, hcompile, hprint, ?_⟩
  intro naming
  obtain ⟨sdl, hsdl⟩ := hprint { naming := naming.getD .camel }
  exact ⟨_, fun m _ _ fs => runSdl_of_print fs hcompile hsdl⟩

/-- One query with defaults of an enum, a list and an input object. -/
def catalog : SchemaModule where
  name := "catalog"
  objects := .ofList [("query", { fields := .ofList [("find_items", {
    type := .list (.named "string")
    arguments := .ofList [
      ("order", { type := .named "order", default := some (.enum "ascending") }),
      ("sizes", { type := .list (.named "int"), default := some (.int 3) }),
      ("filter", { type := .named "filter",
                   default := some (.object [("min_price", .int 1)]) })] })] })]
  enums := .ofList [("order", { values := [{ key := "ascending" }, { key := "descending" }] })]
  inputs := .ofList [("filter", { fields := .ofList [("min_price", { type := .named "int" })] })]

theorem compiled_prints_catalog :
    (∃ schema compiled, Lowering.run [catalog] = .ok schema ∧
      { standard [⟨fun _ _ => [.complexity 1]⟩] with plugins := [{ name := "watch" }] }.compile
        schema = .ok compiled ∧
      ∃ text, Sdl.print compiled { naming := .passthrough, indent := .tab } = .ok text) ∧
    ∃ report schema, Command.check [catalog] ["catalog.toml"] = .ok report ∧
      Command.compile [catalog] .standard = .ok schema ∧
      ∃ text, Sdl.print schema { naming := .passthrough, indent := .tab } = .ok text := by
  constructor
  · have hok : (Lowering.run [catalog] >>= fun schema =>
        ({ standard [⟨fun _ _ => [.complexity 1]⟩] with plugins := [{ name := "watch" }] }.compile
          schema).mapError PipelineError.errors).isOk := by cbv
    obtain ⟨compiled, hboth⟩ := isOk_iff.1 hok
    obtain ⟨schema, hlower, hcompile⟩ := bind_eq_ok_iff.1 hboth
    rw [mapError_eq_ok_iff] at hcompile
    exact ⟨schema, compiled, hlower, hcompile, compiled_prints.1 _ _ schema compiled hcompile _⟩
  · have hok : (Command.check [catalog] ["catalog.toml"]).isOk := by cbv
    obtain ⟨report, hcheck⟩ := isOk_iff.1 hok
    obtain ⟨schema, hcompile, hprint, -⟩ := compiled_prints.2 [catalog] _ report hcheck
    exact ⟨report, schema, hcheck, hcompile, hprint _⟩

end GraphSchema.Pipeline
