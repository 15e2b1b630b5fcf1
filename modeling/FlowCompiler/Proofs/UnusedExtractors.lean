import FlowCompiler.Proofs.Registries

/-!
# Extractors without a key in a document

What is made of a document depends on those extractors alone that have a key in one of the maps that
extractors are shown (`Compiler.assemble_eq_of_applying`). So an extractor that has none may be
registered anywhere (`unused_extractor_ignored`): whatever the stages at which it runs, and whatever
it would produce or reject, every compilation has the outcome that it has without it.
-/

namespace FlowCompiler

/-- Registries with the same extractors for a map do the same with it. -/
theorem Registry.agreeOn_of_applying {left right : List Extractor} {part : Document}
    (h : left.filter (fun extractor => extractor.applies part)
      = right.filter fun extractor => extractor.applies part) :
    (ofList left).AgreeOn Eq (ofList right) part := by
  -- The extractors of a stage that apply are the extractors that apply, at the stage.
  have hselected (p : Extractor → Bool) :
      (left.filter p).filter (fun extractor => extractor.applies part)
        = (right.filter p).filter fun extractor => extractor.applies part := by
    rw [List.filter_comm, h, List.filter_comm]
  have hkeys (unit : String) (p : Extractor → Bool) (additional : List String) :
      validateKeys unit part (left.filter p) additional
        = validateKeys unit part (right.filter p) additional := by
    rw [← validateKeys_filter_applies, hselected, validateKeys_filter_applies]
  refine ⟨fun unit stage additional => ?_, fun unit stages additional => ?_, fun unit stage => ?_⟩
  · rw [stage_ofList, stage_ofList, hkeys]
  · rw [stages_ofList, stages_ofList, hkeys]
  · rw [stage_ofList, stage_ofList, ← runStage_filter_applies, hselected, runStage_filter_applies]
    exact .refl _

/-- A document is compiled to the same, or fails for the same reason, with registries that have the
same extractors for every map of it. -/
theorem Compiler.assemble_eq_of_applying {left right : List Extractor} {document : Document}
    (h : ∀ part ∈ shownMaps document, left.filter (fun extractor => extractor.applies part)
      = right.filter fun extractor => extractor.applies part)
    (options : Options) (unit : SourceUnit) (name : String) :
    (Compiler.mk (.ofList left) options).assemble unit name document
      = (Compiler.mk (.ofList right) options).assemble unit name document :=
  (agree_assemble_of_registries options unit name fun part hpart =>
    Registry.agreeOn_of_applying (h part hpart)).eq

/-- Whether the extractor has no key in the document: neither in the document itself nor in its
action nor in the body of a task, taken out of a loop, of any section. -/
def Extractor.IsUnused (extractor : Extractor) (document : Document) : Prop :=
  ∀ part ∈ shownMaps document, ∀ key ∈ extractor.keys, key ∉ part.keys

instance (extractor : Extractor) (document : Document) :
    Decidable (extractor.IsUnused document) :=
  inferInstanceAs (Decidable (∀ part ∈ shownMaps document, ∀ key ∈ extractor.keys,
    key ∉ part.keys))

/-- An extractor that the document does not use makes no difference, wherever in a registry it is
put: the outcome is the same executable or the same error. -/
theorem unused_extractor_ignored {before after : List Extractor} {extractor : Extractor}
    {document : Document} (h : extractor.IsUnused document) (options : Options)
    (unit : SourceUnit) (name : String) :
    (Compiler.mk (.ofList (before ++ extractor :: after)) options).assemble unit name document
      = (Compiler.mk (.ofList (before ++ after)) options).assemble unit name document := by
  refine Compiler.assemble_eq_of_applying (fun part hpart => ?_) options unit name
  have happlies : ¬ extractor.applies part = true := fun happlies => by
    obtain ⟨key, hkey, hmem⟩ := Extractor.applies_iff.mp happlies
    exact h part hpart key hkey hmem
  rw [List.filter_append, List.filter_append, List.filter_cons, if_neg happlies]

/-- An extractor that runs at every stage and rejects whatever it is shown. -/
def deadline : Extractor where
  name := "deadline"
  keys := ["deadline"]
  stages := Stage.all
  extract := fun _ => .error (.invalid "deadline" "is not supported")

/-- A flow in which the key of `deadline` is the name of a task and of a binding, and stands beside
the key of a loop, with the loop of a task in its error section. -/
def pollFlow (inner : Document) : Document :=
  [(Keyword.workflow, .map
    [("poll", .map [(Keyword.callee, .map [("ops.poll", .map [("deadline", .string "noon")])])]),
     ("deadline", .map [(Keyword.callee, .map [("ops.stop", .null)])]),
     (Keyword.onFailure, .map
      [("report", .map [(Keyword.loop, .map inner), ("deadline", .string "midnight")])])])]

/-- The body of a task that does not use `deadline`. -/
def reportBody : Document :=
  [(Keyword.header, .string "reader in readers"), (Keyword.callee, .map [("ops.tell", .null)])]

/-- The unit of `pollFlow`. -/
def pollUnit : SourceUnit where
  name := "demo.poll"
  kind := .flow
  space := "demo"
  imports := some (.ofList [("ops", "org.ops")])

/-- The outcome for a flow does not depend on the extractor, unless the inner map of the loop has
its key. -/
theorem pollFlow_ignores_deadline :
    deadline.IsUnused (pollFlow reportBody)
    ∧ (Compiler.mk (.ofList (Extractor.standard.take 4 ++ deadline :: Extractor.standard.drop 4))
          {}).assemble pollUnit "poll" (pollFlow reportBody)
        = (Compiler.mk (.ofList (Extractor.standard.take 4 ++ Extractor.standard.drop 4))
          {}).assemble pollUnit "poll" (pollFlow reportBody)
    ∧ ((Compiler.mk .standard {}).assemble pollUnit "poll" (pollFlow reportBody)).isOk = true
    ∧ (Compiler.mk .standard {}).assemble pollUnit "poll"
          (pollFlow (("deadline", .null) :: reportBody))
        = .error (.unknownKeyword "report" "deadline")
    ∧ (Compiler.mk (.ofList (deadline :: Extractor.standard)) {}).assemble pollUnit "poll"
          (pollFlow (("deadline", .null) :: reportBody))
        = .error (.extraction "report" (.invalid "deadline" "is not supported")) := by
  have hunused : deadline.IsUnused (pollFlow reportBody) := by decide +kernel
  refine ⟨hunused, unused_extractor_ignored hunused {} pollUnit "poll", ?_, ?_, ?_⟩
  all_goals decide +kernel

end FlowCompiler
