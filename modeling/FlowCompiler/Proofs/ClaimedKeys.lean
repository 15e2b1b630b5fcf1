import FlowCompiler.Extractor.Standard
import FlowCompiler.Proofs.Registries

/-!
# Which keys are accepted

The keys of a document are checked against those of the extractors that run at some of several
stages, and against some more. A key is accepted if one of these extractors has it or it is among
the additional ones (`IsDeclared`), so that with more stages or more additional keys no fewer
documents are accepted. Of several other keys the first is reported (`keys_checked_exactly`).
-/

namespace FlowCompiler

section Keys

variable {unit key : String} {document : Document} {additional : List String}

theorem validateKeys_eq_error_iff {extractors : List Extractor} {failure : CompileError} :
    validateKeys unit document extractors additional = .error failure
      ↔ ∃ before key after, document.keys = before ++ key :: after
          ∧ (∀ earlier ∈ before, isClaimed extractors additional earlier = true)
          ∧ ¬ isClaimed extractors additional key = true
          ∧ failure = .unknownKeyword unit key := by
  have hfound : validateKeys unit document extractors additional = .error failure
      ↔ ∃ key, document.keys.find? (fun key => !isClaimed extractors additional key) = some key
          ∧ failure = .unknownKeyword unit key := by
    unfold validateKeys
    cases document.keys.find? fun key => !isClaimed extractors additional key with
    | none => simp
    | some key => simp [eq_comm]
  simp only [hfound, List.find?_eq_some_iff_append, Bool.not_not, Bool.not_eq_true',
    ← Bool.not_eq_true]
  apply Iff.intro
  · intro h
    obtain ⟨key, ⟨hkey, before, after, hkeys, hbefore⟩, hfailure⟩ := h
    exact ⟨before, key, after, hkeys, hbefore, hkey, hfailure⟩
  · intro h
    obtain ⟨before, key, after, hkeys, hbefore, hkey, hfailure⟩ := h
    exact ⟨key, ⟨hkey, before, after, hkeys, hbefore⟩, hfailure⟩

/-- An extractor of the list has the key and runs at one of the stages, or the key is among the
additional ones. -/
def IsDeclared (extractors : List Extractor) (stages : List Stage) (additional : List String)
    (key : String) : Prop :=
  (∃ extractor ∈ extractors, (∃ stage ∈ stages, stage ∈ extractor.stages) ∧ key ∈ extractor.keys)
    ∨ key ∈ additional

variable {extractors : List Extractor} {stages : List Stage}

theorem IsDeclared.mono {more : List Stage} {others : List String}
    (hstages : stages ⊆ more) (hadditional : additional ⊆ others)
    (h : IsDeclared extractors stages additional key) : IsDeclared extractors more others key := by
  rcases h with ⟨extractor, hextractor, ⟨stage, hstage, hruns⟩, hkey⟩ | hkey
  · exact .inl ⟨extractor, hextractor, ⟨stage, hstages hstage, hruns⟩, hkey⟩
  · exact .inr (hadditional hkey)

theorem isClaimed_iff :
    isClaimed extractors additional key = true
      ↔ (∃ extractor ∈ extractors, key ∈ extractor.keys) ∨ key ∈ additional := by
  simp [isClaimed]

theorem isClaimed_stages_iff :
    isClaimed ((Registry.ofList extractors).stages stages) additional key = true
      ↔ IsDeclared extractors stages additional key := by
  simp only [isClaimed_iff, Registry.stages_ofList, List.mem_filter, List.any_eq_true,
    List.contains_iff_mem, and_assoc, IsDeclared]

end Keys

/-- The keys of a document are accepted exactly if each of them is declared, and else the first that
is not is reported for the unit. More stages or more additional keys reject no document that was
accepted, and each key of an accepted document belongs to an extractor of one of the stages or is
among the additional ones. -/
theorem keys_checked_exactly (extractors : List Extractor) (unit : String) (document : Document)
    (stages : List Stage) (additional : List String) :
    (validateKeys unit document ((Registry.ofList extractors).stages stages) additional = .ok ()
        ↔ ∀ key ∈ document.keys, IsDeclared extractors stages additional key)
      ∧ (∀ failure,
        validateKeys unit document ((Registry.ofList extractors).stages stages) additional
            = .error failure
          ↔ failure.code = "K001" ∧ failure.unit? = some unit
            ∧ ∃ before key after, document.keys = before ++ key :: after
              ∧ (∀ earlier ∈ before, IsDeclared extractors stages additional earlier)
              ∧ ¬ IsDeclared extractors stages additional key
              ∧ failure = .unknownKeyword unit key)
      ∧ (∀ more others, stages ⊆ more → additional ⊆ others →
        validateKeys unit document ((Registry.ofList extractors).stages stages) additional
            = .ok () →
        validateKeys unit document ((Registry.ofList extractors).stages more) others = .ok ())
      ∧ (validateKeys unit document ((Registry.ofList extractors).stages stages) additional
            = .ok () →
        ∀ key ∈ document.keys,
          (∃ extractor ∈ (Registry.ofList extractors).stages stages, key ∈ extractor.keys)
            ∨ key ∈ additional) := by
  have haccepted (stages : List Stage) (additional : List String) :
      validateKeys unit document ((Registry.ofList extractors).stages stages) additional = .ok ()
        ↔ ∀ key ∈ document.keys, IsDeclared extractors stages additional key := by
    simp only [validateKeys_eq_ok_iff, isClaimed_stages_iff]
  refine ⟨haccepted stages additional, fun failure => ?_, ?_, ?_⟩
  · simp only [validateKeys_eq_error_iff, isClaimed_stages_iff]
    apply Iff.intro
    · intro h
      obtain ⟨before, key, after, hkeys, hbefore, hkey, rfl⟩ := h
      exact ⟨rfl, rfl, before, key, after, hkeys, hbefore, hkey, rfl⟩
    · intro h
      exact h.2.2
  · intro more others hstages hadditional h
    rw [haccepted] at h ⊢
    exact fun key hkey => (h key hkey).mono hstages hadditional
  · intro h key hkey
    exact isClaimed_iff.mp (validateKeys_eq_ok_iff.mp h key hkey)

/-- A task's body with a key that no extractor has. -/
def retryBody : Document :=
  [(Keyword.publish, .null), (Keyword.callee, .null), ("retries", .null), (Keyword.loop, .null)]

/-- With the extractors of one stage a key of another is the first that is unknown, and with those
of both the key that no extractor has. Once the rest are additional keys the body is accepted, and
so it is with more of either. -/
theorem retryBody_checked :
    validateKeys "retry" retryBody (Registry.standard.stages [.afterTask]) []
        = .error (.unknownKeyword "retry" Keyword.callee)
      ∧ validateKeys "retry" retryBody (Registry.standard.stages [.afterTask, .beforeTask]) []
        = .error (.unknownKeyword "retry" "retries")
      ∧ validateKeys "retry" retryBody (Registry.standard.stages [.afterTask, .beforeTask])
          ["retries", Keyword.loop] = .ok ()
      ∧ validateKeys "retry" retryBody
          (Registry.standard.stages [.beforeTask, .afterTask, .action, .beforeTask])
          [Keyword.loop, Keyword.name, "retries"] = .ok () := by
  have haccepted : validateKeys "retry" retryBody
      (Registry.standard.stages [.afterTask, .beforeTask]) ["retries", Keyword.loop] = .ok () := by
    decide +kernel
  obtain ⟨-, -, hmore, -⟩ := keys_checked_exactly Extractor.standard "retry" retryBody
    [.afterTask, .beforeTask] ["retries", Keyword.loop]
  refine ⟨by decide +kernel, by decide +kernel, haccepted, ?_⟩
  exact hmore _ _ (by decide) (by decide) haccepted

end FlowCompiler
