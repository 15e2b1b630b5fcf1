import FlowCompiler.Proofs.ReorderedExecutables
import FlowCompiler.Proofs.SourceFormat
import Mathlib.Data.List.Permutation

/-!
# Compiling reordered sources

Sources that are the same but for the order of keys that has no meaning are compiled to the same
executable, or none of them is (`reordered_sources_agree`). Taken apart they are sources of the same
unit with documents that are the same (`Source.alike_ofJson`).
-/

namespace FlowCompiler

namespace Source

/-- The sources are about one unit, and their documents are the same. -/
structure SameUnit (source other : Source) : Prop where
  unit_eq : source.unit = other.unit
  name_eq : source.executableName = other.executableName
  document : Reordered .document source.document other.document

variable {left right : Document}

/-! ## The parts of a source -/

theorem alike_readImports (h : Reordered .source left right) :
    Alike Eq (readImports (left.get? Keyword.importTable))
      (readImports (right.get? Keyword.importTable)) := by
  rcases h.maps_or_eq Keyword.importTable .aliases (by decide) (by decide) with
    ⟨aliases, others, hleft, hright, haliases⟩ | ⟨heq, -⟩
  · rw [hleft, hright]
    have hperm : aliases.Perm others := haliases.perm_of_fixed fun _ => rfl
    have htable := alike_table readAliases_eq_ok_iff (fun _ => rfl) hperm haliases.distinct
    exact htable.map fun _ _ heq => congrArg some heq
  · rw [heq]
    exact .refl _

theorem alike_readBody {value other : Json} (h : Like .document value other) (key : String) :
    Alike (Reordered .document) (readBody key value) (readBody key other) := by
  rcases h.maps_or_eq (by decide) with ⟨left, right, rfl, rfl, hmaps⟩ | ⟨rfl, hmap⟩
  · exact .made hmaps
  · cases value with
    | null => exact .made (.nil .document)
    | map entries => exact absurd rfl (hmap entries)
    | bool held | number held | string held | list items => exact .failed _ _

theorem readName_eq (h : Reordered .document left right) (key : String) (kind : UnitKind) :
    readName key kind left = readName key kind right := by
  have hname : left.get? Keyword.name = right.get? Keyword.name :=
    h.get?_eq_of_fixed (by decide)
  rw [readName, readName, hname]

/-- Under the key of an executable stands its document. -/
theorem child_of_kindOfKey? {key : String} {kind : UnitKind} (h : kindOfKey? key = some kind) :
    Role.source.child key = .document := by
  obtain rfl := kindOfKey?_eq_some_iff.mp h
  cases kind <;> rfl

/-! ## Sources -/

theorem alike_ofEntry {entry other : String × Json} (h : LikeEntry .source entry other)
    (space : String) (imports : Option Imports) :
    Alike SameUnit (ofEntry space imports entry.1 entry.2)
      (ofEntry space imports other.1 other.2) := by
  rw [← h.key_eq, ofEntry, ofEntry]
  cases hkind : kindOfKey? entry.1 with
  | none => exact .failed _ _
  | some kind =>
    have hbody : Like .document entry.2 other.2 := child_of_kindOfKey? hkind ▸ h.value
    refine (alike_readBody hbody entry.1).bind fun document other hdocument => ?_
    rw [readName_eq hdocument]
    exact (Alike.refl _).bind_same fun name => .made ⟨rfl, rfl, hdocument⟩

/-- Sources that are the same are taken apart to sources of one unit, or neither is. -/
theorem alike_ofDocument (h : Reordered .source left right) :
    Alike SameUnit (ofDocument left) (ofDocument right) := by
  have hspace : left.get? Keyword.space = right.get? Keyword.space :=
    h.get?_eq_of_fixed (by decide)
  have hrest := (h.erase rfl Keyword.space).erase rfl Keyword.importTable
  unfold ofDocument
  rw [hspace]
  refine (Alike.refl _).bind_same fun space => ?_
  refine (alike_readImports h).bind_same fun imports => ?_
  generalize (Document.erase left Keyword.space).erase Keyword.importTable = rest,
    (Document.erase right Keyword.space).erase Keyword.importTable = others at hrest
  -- One executable is left in both, or another number of entries, which is the same.
  have hlength := hrest.keys_perm.length_eq
  match rest, others with
  | [], [] => exact .failed _ _
  | [_], [_] => exact alike_ofEntry hrest.singleton space imports
  | _ :: _ :: _, _ :: _ :: _ => exact .failed _ _

theorem alike_ofJson {value other : Json} (h : Like .source value other) :
    Alike SameUnit (ofJson value) (ofJson other) := by
  rcases h.maps_or_eq (by decide) with ⟨left, right, rfl, rfl, hmaps⟩ | ⟨rfl, hmap⟩
  · exact alike_ofDocument hmaps
  · cases value with
    | map entries => exact absurd rfl (hmap entries)
    | null | bool held | number held | string held | list items => exact .failed _ _

/-- The texts of sources that are the same are taken apart to sources of one unit, or neither is. -/
theorem alike_readSource {text other : String} {value reordered : Json}
    (hvalue : Json.read text = .ok value) (hother : Json.read other = .ok reordered)
    (h : Same .source value reordered) :
    Alike SameUnit (readSource text) (readSource other) := by
  rw [readSource, readSource, parse, parse, hvalue, hother]
  exact (alike_ofJson ⟨Json.wellKeyed_of_read hvalue, h⟩).mapError

end Source

/-! ## Compiling -/

theorem Compiler.alike_compileSource {compiler : Compiler} {source other : Source}
    (hregistry : compiler.registry = .standard) (h : source.SameUnit other) :
    Alike Eq (compiler.compileSource source) (compiler.compileSource other) := by
  rw [compileSource, compileSource, h.unit_eq, h.name_eq]
  exact alike_assemble hregistry other.unit other.executableName h.document

/-- Sources that are the same but for the order of keys that has no meaning are compiled to the same
executable, or fail to compile both, whatever checks are asked for. -/
theorem reordered_sources_agree {text other : String} {value reordered : Json}
    (hvalue : Json.read text = .ok value) (hother : Json.read other = .ok reordered)
    (h : Same .source value reordered) (options : Options) :
    (∃ executable, compileUnder options text = .ok executable
        ∧ compileUnder options other = .ok executable)
      ∨ ((∃ cause, compileUnder options text = .error cause)
        ∧ ∃ cause, compileUnder options other = .error cause) := by
  have halike : Alike Eq (compileUnder options text) (compileUnder options other) :=
    (Source.alike_readSource hvalue hother h).bind fun _ _ hsource =>
      Compiler.alike_compileSource rfl hsource
  generalize compileUnder options text = result, compileUnder options other = otherResult at halike
  cases halike with
  | failed cause otherCause => exact .inr ⟨⟨cause, rfl⟩, otherCause, rfl⟩
  | made heq => exact .inl ⟨_, rfl, congrArg Except.ok heq.symm⟩

/-- The text of a flow. -/
def authoredText : String :=
  "\x7b\"imports\":\x7b\"a\":\"b\"\x7d,\"flow\":\x7b\"name\":\"f\",\"workflow\":\x7b"
    ++ "\"t\":\x7b\"do\":\x7b\"a.t\":null\x7d,\"navigate\":\x7b\"SUCCESS\":\"u\"\x7d\x7d,"
    ++ "\"on_failure\":\x7b\"u\":\x7b\"do\":\x7b\"a.u\":null\x7d\x7d\x7d\x7d\x7d\x7d"

/-- The text of the same flow in which keys have changed their places. -/
def shuffledText : String :=
  "\x7b\"flow\":\x7b\"workflow\":\x7b"
    ++ "\"on_failure\":\x7b\"u\":\x7b\"do\":\x7b\"a.u\":null\x7d\x7d\x7d,"
    ++ "\"t\":\x7b\"navigate\":\x7b\"SUCCESS\":\"u\"\x7d,\"do\":\x7b\"a.t\":null\x7d\x7d\x7d,"
    ++ "\"name\":\"f\"\x7d,\"imports\":\x7b\"a\":\"b\"\x7d\x7d"

/-- The table of aliases of `authoredText`. -/
def authoredImports : String × Json := ("imports", .map [("a", .string "b")])

/-- What the task of `authoredText` calls. -/
def authoredCallee : String × Json := ("do", .map [("a.t", .null)])

/-- The targets of the task of `authoredText`. -/
def authoredTargets : String × Json := ("navigate", .map [("SUCCESS", .string "u")])

/-- The error section of `authoredText`. -/
def authoredRecovery : String × Json :=
  ("on_failure", .map [("u", .map [("do", .map [("a.u", .null)])])])

/-- The tasks of `authoredText`. -/
def authoredTasks : Json :=
  .map [("t", .map [authoredCallee, authoredTargets]), authoredRecovery]

/-- The tasks of `shuffledText`. -/
def shuffledTasks : Json :=
  .map [authoredRecovery, ("t", .map [authoredTargets, authoredCallee])]

/-- The value of `authoredText`. -/
def authoredSource : Json :=
  .map [authoredImports,
    ("flow", .map [("name", .string "f"), ("workflow", authoredTasks)])]

/-- The value of `shuffledText`. -/
def shuffledSource : Json :=
  .map [("flow", .map [("workflow", shuffledTasks), ("name", .string "f")]),
    authoredImports]

theorem same_shuffledSource : Same .source authoredSource shuffledSource := by
  have hbody : Same .body (.map [authoredCallee, authoredTargets])
      (.map [authoredTargets, authoredCallee]) :=
    .map (by decide) (.refl _ _) (.swap _ _ _)
  have htasks : Same .tasks authoredTasks shuffledTasks :=
    .map (by decide) (.cons_of (by decide) hbody (.refl _ _)) ⟨.swap _ _ _, rfl⟩
  have hflow : Same .document (.map [("name", .string "f"), ("workflow", authoredTasks)])
      (.map [("workflow", shuffledTasks), ("name", .string "f")]) :=
    .map (by decide) (.cons (.refl _ _) (.cons_of (by decide) htasks (.nil _))) (.swap _ _ _)
  exact .map (by decide) (.cons (.refl _ _) (.cons_of (by decide) hflow (.nil _)))
    (.swap _ _ _)

theorem shuffledText_agrees :
    Json.read authoredText = .ok authoredSource ∧ Json.read shuffledText = .ok shuffledSource
      ∧ Same .source authoredSource shuffledSource
      ∧ ∃ executable, compileUnder {} authoredText = .ok executable
        ∧ compileUnder {} shuffledText = .ok executable := by
  have hauthored : Json.read authoredText = .ok authoredSource := by cbv
  have hshuffled : Json.read shuffledText = .ok shuffledSource := by cbv
  have hok : (compileUnder {} authoredText).isOk = true := by
    rw [compileUnder, readSource, Source.parse, hauthored]
    decide +kernel
  refine ⟨hauthored, hshuffled, same_shuffledSource, ?_⟩
  rcases reordered_sources_agree hauthored hshuffled same_shuffledSource {} with
    hagree | ⟨⟨cause, hcause⟩, -⟩
  · exact hagree
  · rw [hcause] at hok
    cases hok

end FlowCompiler
