import FlowCompiler.Proofs.Executables
import FlowCompiler.Proofs.Failures
import FlowCompiler.Proofs.Inputs
import FlowCompiler.Proofs.ReadKeys
import FlowCompiler.Report

/-!
# The format of sources

Which maps are sources (`IsSource`), and what a source says (`Describes`). A text is read as a
source exactly if it holds such a map; otherwise the first part that is at fault decides the code of
the error (`faultCode`). What is compiled from a source has the names that the source gives it
(`sources_read_exactly`).
-/

namespace FlowCompiler

/-- The key under which a source of the kind has its executable. -/
def UnitKind.key : UnitKind → String
  | .flow => Keyword.flow
  | .operation => Keyword.operation
  | .systemProperties => Keyword.systemProperty

/-- Whether the value is a text. -/
def Json.IsText : Json → Prop
  | .string _ => True
  | _ => False

instance : DecidablePred Json.IsText
  | .string _ => isTrue trivial
  | .null | .bool _ | .number _ | .list _ | .map _ => isFalse id

namespace Source

/-! ## The namespace -/

/-- Whether the value may stand for a namespace: a text, or nothing. -/
def HasSpace : Option Json → Prop
  | none | some .null => True
  | some value => value.IsText

instance : DecidablePred HasSpace
  | none | some .null => isTrue trivial
  | some (.string _) => isTrue trivial
  | some (.bool _) | some (.number _) | some (.list _) | some (.map _) => isFalse id

/-- The namespace that the value stands for. -/
def spaceOf : Option Json → String
  | some (.string space) => space
  | _ => ""

theorem readSpace_eq_ok_iff {value : Option Json} {space : String} :
    readSpace value = .ok space ↔ HasSpace value ∧ space = spaceOf value := by
  cases value with
  | none => simp [readSpace, HasSpace, spaceOf, eq_comm]
  | some value => cases value <;> simp [readSpace, HasSpace, Json.IsText, spaceOf, eq_comm]

theorem code_of_readSpace {value : Option Json} :
    FailsOnly (fun cause => cause.code = "P002") (readSpace value) := by
  unfold readSpace
  split
  · exact .ok ""
  · exact .ok ""
  · exact .ok _
  · exact .error rfl

/-! ## The table of aliases -/

/-- Whether the value may stand for a table of aliases: a map of texts, or nothing. -/
def HasImports : Option Json → Prop
  | none | some .null => True
  | some (.map entries) => ∀ entry ∈ entries, entry.2.IsText
  | some _ => False

instance : DecidablePred HasImports
  | none | some .null => isTrue trivial
  | some (.map entries) => inferInstanceAs (Decidable (∀ entry ∈ entries, entry.2.IsText))
  | some (.bool _) | some (.number _) | some (.string _) | some (.list _) => isFalse id

/-- The bindings of a map of texts. -/
def aliasesOf (entries : Document) : List (String × String) :=
  entries.map fun entry => (entry.1, entry.2.text?.getD "")

/-- The table that the value stands for. -/
def importsOf : Option Json → Option Imports
  | some (.map entries) => some (.ofList (aliasesOf entries))
  | _ => none

theorem readAliases_eq_ok_iff {entries : Document} {aliases : List (String × String)} :
    readAliases entries = .ok aliases
      ↔ (∀ entry ∈ entries, entry.2.IsText) ∧ aliases = aliasesOf entries := by
  induction entries generalizing aliases with
  | nil => simp [readAliases, aliasesOf, eq_comm]
  | cons entry rest ih =>
    obtain ⟨target, value⟩ := entry
    rw [List.forall_mem_cons]
    cases value with
    | string space =>
      rw [readAliases, map_eq_ok_iff_of ih]
      simp [aliasesOf, Json.text?, Json.IsText]
    | null | bool held | number held | list items | map entries =>
      simp [readAliases, Json.IsText]

theorem code_of_readAliases {entries : Document} :
    FailsOnly (fun cause => cause.code = "P003") (readAliases entries) := by
  induction entries with
  | nil => exact .ok []
  | cons entry rest ih =>
    obtain ⟨target, value⟩ := entry
    cases value with
    | string space => exact ih.map
    | null | bool held | number held | list items | map entries => exact .error rfl

theorem readImports_eq_ok_iff {value : Option Json} {imports : Option Imports} :
    readImports value = .ok imports ↔ HasImports value ∧ imports = importsOf value := by
  cases value with
  | none => simp [readImports, HasImports, importsOf, eq_comm]
  | some value =>
    cases value with
    | map entries => exact map_eq_ok_iff_of readAliases_eq_ok_iff
    | null | bool held | number held | string held | list items =>
      simp [readImports, HasImports, importsOf, eq_comm]

theorem code_of_readImports {value : Option Json} :
    FailsOnly (fun cause => cause.code = "P003") (readImports value) := by
  unfold readImports
  split
  · exact .ok none
  · exact .ok none
  · exact code_of_readAliases.map
  · exact .error rfl

theorem importsOf_eq_none_iff {value : Option Json} (h : HasImports value) :
    importsOf value = none ↔ value = none ∨ value = some .null := by
  cases value with
  | none => simp [importsOf]
  | some value =>
    cases value with
    | null | map entries => simp [importsOf]
    | bool held | number held | string held | list items => exact h.elim

theorem importsOf_eq_some_iff {value : Option Json} {imports : Imports} :
    importsOf value = some imports
      ↔ ∃ entries, value = some (.map entries) ∧ imports = .ofList (aliasesOf entries) := by
  cases value with
  | none => simp [importsOf]
  | some value => cases value <;> simp [importsOf, eq_comm]

/-- In a map of texts without repeated keys, an alias stands for the text under it. -/
theorem get?_aliasesOf {entries : Document} (hdistinct : entries.Distinct)
    (htexts : ∀ entry ∈ entries, entry.2.IsText) (target space : String) :
    (SortedMap.ofList (aliasesOf entries)).get? target = some space
      ↔ entries.get? target = some (.string space) := by
  have hkeys : ((aliasesOf entries).map Prod.fst).Nodup := by
    rw [aliasesOf, List.map_map]
    exact hdistinct
  have hlookup : (aliasesOf entries).lookup target
      = (entries.lookup target).map fun value => value.text?.getD "" :=
    SortedMap.lookup_map_snd (fun value : Json => value.text?.getD "") entries target
  rw [SortedMap.get?_ofList, ← SortedMap.lookup_eq_of_perm (List.reverse_perm _).symm hkeys,
    hlookup, Document.get?]
  cases hvalue : entries.lookup target with
  | none => simp
  | some value =>
    have hmem := (SortedMap.lookup_eq_some_iff_of_nodup hdistinct).mp hvalue
    have htext : value.IsText := htexts _ hmem
    cases value with
    | string held => simp [Json.text?]
    | null | bool held | number held | list items | map entries => exact htext.elim

/-! ## The executable -/

/-- The entries beside the namespace and the table of aliases. -/
def others (entries : Document) : Document :=
  entries.filter fun entry => entry.1 ∉ [Keyword.space, Keyword.importTable]

/-- Whether the value may stand for the document of an executable: a map, or nothing. -/
def HasDocument : Json → Prop
  | .null | .map _ => True
  | _ => False

/-- The document that the value stands for. -/
def documentOf : Json → Document
  | .map entries => entries
  | _ => []

theorem HasDocument.map_or_null {value : Json} (h : HasDocument value) :
    value = .map (documentOf value) ∨ value = .null ∧ documentOf value = [] := by
  cases value with
  | null => exact .inr ⟨rfl, rfl⟩
  | map entries => exact .inl rfl
  | bool held | number held | string held | list items => exact h.elim

/-- The document of an executable of the kind gives it the name. Only a set of system properties may
be without one; it is called by its key. -/
def IsNamed (kind : UnitKind) (document : Document) (name : String) : Prop :=
  document.get? Keyword.name = some (.string name)
    ∨ kind = .systemProperties ∧ document.get? Keyword.name = none ∧ name = Keyword.systemProperty

/-- Whether the source has one executable, which may be read. -/
def HasExecutable (entries : Document) : Prop :=
  ∃ kind body name, others entries = [(UnitKind.key kind, body)] ∧ HasDocument body
    ∧ IsNamed kind (documentOf body) name

theorem erase_erase_eq_others (entries : Document) :
    (entries.erase Keyword.space).erase Keyword.importTable = others entries := by
  rw [Document.erase, Document.erase, List.filter_filter, others]
  refine List.filter_congr fun entry _ => ?_
  rw [Bool.eq_iff_iff]
  simp [and_comm]

theorem kindOfKey?_eq_some_iff {key : String} {kind : UnitKind} :
    kindOfKey? key = some kind ↔ key = kind.key := by
  unfold kindOfKey?
  apply Iff.intro
  · intro h
    split_ifs at h with hflow hoperation hproperties <;> cases h <;> assumption
  · rintro rfl
    cases kind <;> decide

theorem readBody_eq_ok_iff {key : String} {body : Json} {document : Document} :
    readBody key body = .ok document ↔ HasDocument body ∧ document = documentOf body := by
  cases body <;> simp [readBody, HasDocument, documentOf, eq_comm]

theorem readName_eq_ok_iff {kind : UnitKind} {document : Document} {name : String} :
    readName kind.key kind document = .ok name ↔ IsNamed kind document name := by
  unfold readName IsNamed
  cases document.get? Keyword.name with
  | none => cases kind <;> simp [UnitKind.key, eq_comm]
  | some value => cases value <;> simp

/-- The source whose executable stands under the key. -/
def ofEntry (space : String) (imports : Option Imports) (key : String) (body : Json) :
    Except SourceError Source :=
  match kindOfKey? key with
  | none => throw (.unknownType key)
  | some kind => do
    let document ← readBody key body
    let name ← readName key kind document
    return ⟨⟨qualified space name, kind, space, imports⟩, name, document⟩

theorem ofEntry_eq_ok_iff {space : String} {imports : Option Imports} {key : String} {body : Json}
    {source : Source} :
    ofEntry space imports key body = .ok source
      ↔ ∃ kind name, key = UnitKind.key kind ∧ HasDocument body
        ∧ IsNamed kind (documentOf body) name
        ∧ source = ⟨⟨qualified space name, kind, space, imports⟩, name, documentOf body⟩ := by
  unfold ofEntry
  cases hkind : kindOfKey? key with
  | none =>
    have hnone : ∀ kind, key ≠ UnitKind.key kind := fun kind hkey => by
      rw [kindOfKey?_eq_some_iff.mpr hkey] at hkind
      cases hkind
    simp [hnone, throw, throwThe, MonadExceptOf.throw]
  | some kind =>
    obtain rfl := kindOfKey?_eq_some_iff.mp hkind
    simp only [bind_eq_ok_iff_of readBody_eq_ok_iff, bind_eq_ok_iff, readName_eq_ok_iff, pure,
      Except.pure, Except.ok.injEq, eq_comm (b := source)]
    apply Iff.intro
    · intro h
      obtain ⟨hdocument, name, hname, hsource⟩ := h
      exact ⟨kind, name, rfl, hdocument, hname, hsource⟩
    · intro h
      obtain ⟨other, name, hkey, hdocument, hname, hsource⟩ := h
      obtain rfl : kind = other :=
        Option.some.inj (hkind.symm.trans (kindOfKey?_eq_some_iff.mpr hkey))
      exact ⟨hdocument, name, hname, hsource⟩

theorem code_of_ofEntry {space : String} {imports : Option Imports} {key : String} {body : Json} :
    FailsOnly (fun cause => cause.code = "P002") (ofEntry space imports key body) := by
  unfold ofEntry
  split
  · exact .error rfl
  · refine .bind ?_ fun document _ => .bind ?_ fun name _ => .ok _
    · unfold readBody
      split
      · exact .ok _
      · exact .ok []
      · exact .error rfl
    · unfold readName
      split
      · exact .ok _
      · split
        · exact .ok key
        · exact .error rfl
      · exact .error rfl

/-! ## Maps and texts -/

/-- Whether the map is a source. -/
structure IsSource (entries : Document) : Prop where
  space : HasSpace (entries.get? Keyword.space)
  imports : HasImports (entries.get? Keyword.importTable)
  executable : HasExecutable entries

/-- The code of the first part of a map that is at fault, given that some part is. -/
def faultCode (entries : Document) : String :=
  if ¬ HasSpace (entries.get? Keyword.space) then "P002"
  else if ¬ HasImports (entries.get? Keyword.importTable) then "P003"
  else "P002"

/-- What a source is about is what its map says. -/
structure Describes (entries : Document) (source : Source) : Prop where
  /-- The namespace is empty if there is none. -/
  space : source.unit.space = spaceOf (entries.get? Keyword.space)
  /-- There is no table of aliases exactly if none is given. -/
  noImports : source.unit.imports = none
    ↔ entries.get? Keyword.importTable = none ∨ entries.get? Keyword.importTable = some .null
  /-- A table has just the aliases of the map. -/
  imports : ∀ table, source.unit.imports = some table →
    ∃ aliases, entries.get? Keyword.importTable = some (.map aliases)
      ∧ ∀ target space, table.get? target = some space
        ↔ Document.get? aliases target = some (.string space)
  /-- The document is what stands under the one key left, which tells the kind. -/
  document : ∃ body, others entries = [(source.unit.kind.key, body)]
    ∧ (body = .map source.document ∨ body = .null ∧ source.document = [])
  /-- The executable has the name that its document gives it. -/
  name : IsNamed source.unit.kind source.document source.executableName
  /-- The unit has the name of the executable, within the namespace if there is one. -/
  unitName : source.unit.name
    = if source.unit.space = "" then source.executableName
      else source.unit.space ++ "." ++ source.executableName

theorem ofDocument_eq_bind (entries : Document) :
    ofDocument entries = (readSpace (entries.get? Keyword.space) >>= fun space =>
      readImports (entries.get? Keyword.importTable) >>= fun imports =>
        match others entries with
        | [(key, body)] => ofEntry space imports key body
        | _ => .error (.notOneExecutable (others entries).keys)) := by
  rw [ofDocument]
  simp only [erase_erase_eq_others]
  refine bind_congr fun space => bind_congr fun imports => ?_
  generalize others entries = rest
  obtain _ | ⟨entry, _ | ⟨second, more⟩⟩ := rest <;> rfl

theorem ofDocument_eq_ok_iff {entries : Document} {source : Source} :
    ofDocument entries = .ok source
      ↔ HasSpace (entries.get? Keyword.space) ∧ HasImports (entries.get? Keyword.importTable)
        ∧ ∃ kind body name, others entries = [(UnitKind.key kind, body)] ∧ HasDocument body
          ∧ IsNamed kind (documentOf body) name
          ∧ source = ⟨⟨qualified (spaceOf (entries.get? Keyword.space)) name, kind,
              spaceOf (entries.get? Keyword.space), importsOf (entries.get? Keyword.importTable)⟩,
            name, documentOf body⟩ := by
  rw [ofDocument_eq_bind, bind_eq_ok_iff_of readSpace_eq_ok_iff,
    bind_eq_ok_iff_of readImports_eq_ok_iff]
  refine and_congr_right fun _ => and_congr_right fun _ => ?_
  split
  · next key body hothers =>
    rw [ofEntry_eq_ok_iff]
    simp only [hothers, List.cons.injEq, Prod.mk.injEq, and_true]
    apply Iff.intro
    · intro h
      obtain ⟨kind, name, hkey, hrest⟩ := h
      exact ⟨kind, body, name, ⟨hkey, rfl⟩, hrest⟩
    · intro h
      obtain ⟨kind, other, name, ⟨hkey, rfl⟩, hrest⟩ := h
      exact ⟨kind, name, hkey, hrest⟩
  · next hmany =>
    simp only [reduceCtorEq, false_iff]
    intro h
    obtain ⟨kind, body, name, hothers, -⟩ := h
    exact hmany _ _ hothers

theorem isSource_iff {entries : Document} :
    IsSource entries ↔ ∃ source, ofDocument entries = .ok source := by
  simp only [ofDocument_eq_ok_iff]
  apply Iff.intro
  · intro h
    obtain ⟨hspace, himports, kind, body, name, hothers, hbody, hname⟩ := h
    exact ⟨_, hspace, himports, kind, body, name, hothers, hbody, hname, rfl⟩
  · intro h
    obtain ⟨_, hspace, himports, kind, body, name, hothers, hbody, hname, -⟩ := h
    exact ⟨hspace, himports, kind, body, name, hothers, hbody, hname⟩

theorem describes_of_ofDocument {entries : Document} {source : Source}
    (hkeyed : (Json.map entries).WellKeyed) (h : ofDocument entries = .ok source) :
    Describes entries source := by
  obtain ⟨-, himports, kind, body, name, hothers, hbody, hname, rfl⟩ := ofDocument_eq_ok_iff.mp h
  refine ⟨rfl, importsOf_eq_none_iff himports, fun table htable => ?_,
    ⟨body, hothers, hbody.map_or_null⟩, hname, ?_⟩
  · obtain ⟨aliases, hvalue, rfl⟩ := importsOf_eq_some_iff.mp htable
    have hmem : (Keyword.importTable, Json.map aliases) ∈ entries :=
      (SortedMap.lookup_eq_some_iff_of_nodup hkeyed.of_map.1).mp hvalue
    have hdistinct : Document.Distinct aliases := (hkeyed.of_map.2 _ hmem).of_map.1
    rw [hvalue] at himports
    exact ⟨aliases, hvalue, get?_aliasesOf hdistinct himports⟩
  · simp only [qualified, String.isEmpty_iff]

theorem code_of_ofDocument {entries : Document} :
    FailsOnly (fun cause => cause.code = faultCode entries) (ofDocument entries) := by
  intro cause hcause
  rw [ofDocument_eq_bind] at hcause
  have hspace : readSpace (entries.get? Keyword.space) = .error cause
      → ¬ HasSpace (entries.get? Keyword.space) := fun herror hspace => by
    rw [readSpace_eq_ok_iff.mpr ⟨hspace, rfl⟩] at herror
    cases herror
  have himports : readImports (entries.get? Keyword.importTable) = .error cause
      → ¬ HasImports (entries.get? Keyword.importTable) := fun herror himports => by
    rw [readImports_eq_ok_iff.mpr ⟨himports, rfl⟩] at herror
    cases herror
  rcases bind_eq_error_iff.mp hcause with herror | ⟨space, hread, hcause⟩
  · rw [faultCode, if_pos (hspace herror)]
    exact code_of_readSpace cause herror
  · rw [faultCode, if_neg (not_not.mpr (readSpace_eq_ok_iff.mp hread).1)]
    rcases bind_eq_error_iff.mp hcause with herror | ⟨imports, hread, hcause⟩
    · rw [if_pos (himports herror)]
      exact code_of_readImports cause herror
    · rw [if_neg (not_not.mpr (readImports_eq_ok_iff.mp hread).1)]
      split at hcause
      · exact code_of_ofEntry cause hcause
      · obtain rfl := Except.error.inj hcause
        rfl

theorem readSource_eq_ok_iff {text : String} {source : Source} :
    readSource text = .ok source
      ↔ ∃ entries, Json.read text = .ok (.map entries) ∧ ofDocument entries = .ok source := by
  rw [readSource, mapError_eq_ok_iff, parse]
  cases Json.read text with
  | error fault => simp
  | ok value => cases value <;> simp [ofJson]

theorem code_of_readSource {text : String} :
    FailsOnly (fun cause => cause.code = match Json.read text with
      | .ok (.map entries) => faultCode entries
      | _ => "P001") (readSource text) := by
  refine .mapError ?_
  rw [parse]
  cases Json.read text with
  | error fault => exact .error rfl
  | ok value =>
    cases value with
    | map entries => exact code_of_ofDocument
    | null | bool held | number held | string held | list items => exact .error rfl

end Source

/-- A text is a source exactly if it holds a map of the format. The source that is read is what the
map says; a text that is none is rejected for the first part that is at fault. An executable that is
compiled from a source has its namespace and its names, and it is a flow if the source is one. -/
theorem sources_read_exactly (text : String) :
    ((∃ source, readSource text = .ok source)
        ↔ ∃ entries, Json.read text = .ok (.map entries) ∧ Source.IsSource entries)
      ∧ (∀ entries source, Json.read text = .ok (.map entries) → readSource text = .ok source →
          Source.Describes entries source)
      ∧ (∀ cause, readSource text = .error cause →
          cause.code = match Json.read text with
            | .ok (.map entries) => Source.faultCode entries
            | _ => "P001")
      ∧ ∀ source compiler executable, readSource text = .ok source →
          Compiler.compileSource compiler source = .ok executable →
          executable.id = source.unit.name ∧ executable.space = source.unit.space
            ∧ executable.name = source.executableName
            ∧ (executable.isFlow = true ↔ source.unit.kind = .flow) := by
  refine ⟨?_, fun entries source hread hsource => ?_, Source.code_of_readSource,
    fun source compiler executable hsource hcompiled => ?_⟩
  · simp only [Source.isSource_iff, Source.readSource_eq_ok_iff]
    apply Iff.intro
    · intro h
      obtain ⟨source, entries, hread, hsource⟩ := h
      exact ⟨entries, hread, source, hsource⟩
    · intro h
      obtain ⟨entries, hread, source, hsource⟩ := h
      exact ⟨source, entries, hread, hsource⟩
  · obtain ⟨found, hfound, hdocument⟩ := Source.readSource_eq_ok_iff.mp hsource
    obtain rfl := Json.map.inj (Except.ok.inj (hread.symm.trans hfound))
    exact Source.describes_of_ofDocument (Json.wellKeyed_of_read hread) hdocument
  · obtain ⟨entries, -, hdocument⟩ := Source.readSource_eq_ok_iff.mp hsource
    obtain ⟨-, -, kind, body, name, -, -, -, rfl⟩ := Source.ofDocument_eq_ok_iff.mp hdocument
    obtain ⟨hspace, hname⟩ := Compiler.names_of_assemble hcompiled
    exact ⟨by rw [Executable.id, hspace, hname], hspace, hname,
      Compiler.isFlow_iff_of_assemble hcompiled⟩

end FlowCompiler
