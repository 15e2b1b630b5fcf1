import FlowCompiler.Proofs.Layout
import FlowCompiler.Proofs.Walks

/-!
# Default navigation

If no task says where to go, every task goes where its slot says, so that no target dangles and no
outcome is left unhandled (`FollowsSlots.diagnostics_eq`). The tasks of the main body lead from one
to the next, and any of them to the error section, whose tasks lead from one to the next as well:
the tasks of these two sections are always reached (`reaches_of_mem_shallow`). A task of an error
section ends the flow when something is wrong, so nothing leads to the sections below
(`not_reaches_of_mem_deep`), unless names that mean different things coincide. The report on such a
flow is therefore empty or lists the tasks of these deeper sections (`default_navigation_report`).
-/

namespace FlowCompiler

/-- The names of the tasks of the sections, section by section. -/
def namesOf (parts : List Document) : List String :=
  parts.flatMap fun part => (ordinaryTasks part).keys

theorem mem_namesOf {parts : List Document} {name : String} :
    name ∈ namesOf parts ↔ ∃ part ∈ parts, name ∈ (ordinaryTasks part).keys :=
  List.mem_flatMap

theorem namesOf_append (parts others : List Document) :
    namesOf (parts ++ others) = namesOf parts ++ namesOf others :=
  List.flatMap_append

theorem namesOf_sections (tasks : Document) :
    namesOf (sections tasks)
      = namesOf ((sections tasks).take 2) ++ namesOf ((sections tasks).drop 2) := by
  rw [← namesOf_append, List.take_append_drop]

/-- No task of the sections says where to go. -/
def HasDefaultNavigation (tasks : Document) : Prop :=
  ∀ part ∈ sections tasks, ∀ entry ∈ ordinaryTasks part,
    navigationEntries (taskBody entry.2) = []

theorem HasDefaultNavigation.forall_mem_layout {tasks : Document}
    (h : HasDefaultNavigation tasks) :
    ∀ slot ∈ layout tasks, navigationEntries (taskBody slot.body) = [] :=
  forall_mem_layout_iff (P := fun body => navigationEntries (taskBody body) = []).mpr h

/-! ## The targets of slots -/

/-- The navigation entries of a task that goes where its slot says. -/
def Slot.passages (slot : Slot) : List Passage :=
  [⟨slot.name, Outcome.failure, slot.failure⟩, ⟨slot.name, Outcome.success, slot.success⟩]

theorem mem_slots {ending failure : String} {tasks : Document} {slot : Slot}
    (h : slot ∈ slots ending failure tasks) :
    slot.name ∈ tasks.keys ∧ slot.failure = failure
      ∧ (slot.success = ending ∨ slot.success ∈ tasks.keys) := by
  induction tasks with
  | nil => cases h
  | cons entry rest ih =>
    rw [slots_cons, List.mem_cons] at h
    cases h with
    | inl hslot =>
      rw [hslot]
      refine ⟨List.mem_cons_self, rfl, ?_⟩
      cases rest with
      | nil => exact .inl rfl
      | cons next rest => exact .inr (List.mem_cons_of_mem _ List.mem_cons_self)
    | inr hslot =>
      obtain ⟨hname, hfailure, hsuccess⟩ := ih hslot
      exact ⟨List.mem_cons_of_mem _ hname, hfailure, hsuccess.imp_right (List.mem_cons_of_mem _)⟩

theorem recoveryTarget_of_nil {tasks : Document} (h : errorSections tasks = []) :
    recoveryTarget tasks = Outcome.failure := by
  rw [recoveryTarget, h]

theorem recoveryTarget_of_cons {tasks inner : Document} {deeper : List Document}
    (h : errorSections tasks = inner :: deeper) :
    recoveryTarget tasks = (ordinaryTasks inner).keys.headD Outcome.failure := by
  rw [recoveryTarget, h]

theorem recoveryTarget_cases (tasks : Document) :
    recoveryTarget tasks ∈ Outcome.all
      ∨ recoveryTarget tasks ∈ namesOf ((sections tasks).take 2) := by
  cases h : errorSections tasks with
  | nil =>
    rw [recoveryTarget_of_nil h]
    exact .inl (by decide)
  | cons inner deeper =>
    rw [recoveryTarget_of_cons h]
    cases hkeys : (ordinaryTasks inner).keys with
    | nil => exact .inl (by simp [Outcome.all])
    | cons first rest =>
      refine .inr (mem_namesOf.mpr ⟨inner, ?_, by rw [hkeys]; exact List.mem_cons_self⟩)
      rw [sections, h]
      exact List.mem_cons_of_mem _ List.mem_cons_self

/-- A task goes to another one of its section or to an end when all is well, and to a task of the
first error section or to an end when something is wrong. -/
theorem targets_of_mem_layout {tasks : Document} {slot : Slot} (h : slot ∈ layout tasks) :
    ∃ part ∈ sections tasks, slot.name ∈ (ordinaryTasks part).keys
      ∧ (slot.success ∈ Outcome.all ∨ slot.success ∈ (ordinaryTasks part).keys)
      ∧ (slot.failure ∈ Outcome.all ∨ slot.failure ∈ namesOf ((sections tasks).take 2)) := by
  have hends : Outcome.success ∈ Outcome.all ∧ Outcome.failure ∈ Outcome.all := by decide
  rw [layout, List.mem_append, List.mem_flatMap] at h
  cases h with
  | inl hslot =>
    obtain ⟨hname, hfailure, hsuccess⟩ := mem_slots hslot
    refine ⟨tasks, List.mem_cons_self, hname, ?_, ?_⟩
    · exact hsuccess.imp_left fun heq => by rw [heq]; exact hends.1
    · rw [hfailure]
      exact recoveryTarget_cases tasks
  | inr hslot =>
    obtain ⟨part, hpart, hslot⟩ := hslot
    obtain ⟨hname, hfailure, hsuccess⟩ := mem_slots hslot
    refine ⟨part, List.mem_cons_of_mem _ hpart, hname, ?_, .inl (hfailure ▸ hends.2)⟩
    exact hsuccess.imp_left fun heq => by rw [heq]; exact hends.2

/-! ## Workflows that follow their slots -/

namespace Workflow

/-- The tasks have the names of the slots and go where these say. -/
structure FollowsSlots (workflow : Workflow) (places : List Slot) : Prop where
  names_eq : workflow.names = places.map Slot.name
  passages_eq : workflow.passages = places.flatMap Slot.passages
  handled : ∀ task ∈ workflow.tasks, task.missing = []

/-- A workflow follows its slots if no body says where to go. -/
theorem followsSlots_of_fits {places : List Slot} {assembled : List Task}
    (hfits : List.Forall₂ Slot.Fits places assembled)
    (hdefault : ∀ slot ∈ places, navigationEntries (taskBody slot.body) = []) :
    FollowsSlots ⟨assembled⟩ places := by
  induction hfits with
  | nil => exact ⟨rfl, rfl, by simp⟩
  | @cons slot task places assembled hslot hrest ih =>
    obtain ⟨hdefault, hothers⟩ := List.forall_mem_cons.mp hdefault
    obtain ⟨hnames, hpassages, hhandled⟩ := ih hothers
    have hentries := hslot.default hdefault
    refine ⟨?_, ?_, ?_⟩
    · simpa [names, hslot.name_eq] using hnames
    · simpa [passages, Slot.passages, hslot.name_eq, hentries] using hpassages
    · refine List.forall_mem_cons.mpr ⟨?_, hhandled⟩
      have hget (label : String) : task.navigation.get? label
          = [(Outcome.failure, slot.failure), (Outcome.success, slot.success)].lookup label :=
        congrArg (List.lookup label) hentries
      rw [Task.missing, List.filter_eq_nil_iff]
      simp [hget, Outcome.success, Outcome.failure]

namespace FollowsSlots

variable {workflow : Workflow} {places : List Slot} {tasks : Document}

theorem leads_iff (h : workflow.FollowsSlots places) {name target : String} :
    workflow.Leads name target
      ↔ (∃ slot ∈ places, slot.name = name ∧ (target = slot.failure ∨ target = slot.success))
        ∧ target ∈ workflow.names := by
  rw [Workflow.leads_iff, h.passages_eq]
  refine and_congr_left fun _ => ⟨?_, ?_⟩
  · intro h
    obtain ⟨passage, hpassage, rfl, rfl⟩ := h
    obtain ⟨slot, hslot, hpassage⟩ := List.mem_flatMap.mp hpassage
    simp only [Slot.passages, List.mem_cons, List.not_mem_nil, or_false] at hpassage
    rcases hpassage with rfl | rfl
    · exact ⟨slot, hslot, rfl, .inl rfl⟩
    · exact ⟨slot, hslot, rfl, .inr rfl⟩
  · intro h
    obtain ⟨slot, hslot, rfl, rfl | rfl⟩ := h
    · exact ⟨_, List.mem_flatMap.mpr ⟨slot, hslot, List.mem_cons_self⟩, rfl, rfl⟩
    · exact ⟨_, List.mem_flatMap.mpr ⟨slot, hslot, List.mem_cons_of_mem _ List.mem_cons_self⟩,
        rfl, rfl⟩

theorem name_mem_names (h : workflow.FollowsSlots places) {slot : Slot} (hslot : slot ∈ places) :
    slot.name ∈ workflow.names :=
  h.names_eq ▸ List.mem_map.mpr ⟨slot, hslot, rfl⟩

theorem names_eq_namesOf (h : workflow.FollowsSlots (layout tasks)) :
    workflow.names = namesOf (sections tasks) :=
  h.names_eq.trans (map_name_layout tasks)

/-- Nothing but tasks that are not reached is reported. -/
theorem diagnostics_eq (h : workflow.FollowsSlots (layout tasks)) :
    workflow.diagnostics
      = workflow.unreached.map fun name => .unreachable name (workflow.names.headD "") := by
  have hdangles : ∀ passage ∈ workflow.passages, ¬ workflow.Dangles passage.target := by
    intro passage hpassage hdangles
    obtain ⟨hname, hsuccess, hfailure⟩ := hdangles
    have hend : passage.target ∉ Outcome.all := by simp [Outcome.all, hsuccess, hfailure]
    rw [h.passages_eq] at hpassage
    obtain ⟨slot, hslot, hpassage⟩ := List.mem_flatMap.mp hpassage
    obtain ⟨part, hpart, -, hgood, hbad⟩ := targets_of_mem_layout hslot
    rw [h.names_eq_namesOf] at hname
    simp only [Slot.passages, List.mem_cons, List.not_mem_nil, or_false] at hpassage
    rcases hpassage with rfl | rfl
    · obtain ⟨inner, hinner, hkey⟩ := mem_namesOf.mp (hbad.resolve_left hend)
      exact hname (mem_namesOf.mpr ⟨inner, List.mem_of_mem_take hinner, hkey⟩)
    · exact hname (mem_namesOf.mpr ⟨part, hpart, hgood.resolve_left hend⟩)
  have hpassages : (workflow.passages.filter fun passage => workflow.Dangles passage.target) = [] :=
    List.filter_eq_nil_iff.mpr fun passage hpassage => by simpa using hdangles passage hpassage
  have htasks : workflow.tasks.flatMap (fun task =>
      task.missing.map fun label => Diagnostic.unhandled task.name label) = [] :=
    List.flatMap_eq_nil_iff.mpr fun task htask => by rw [h.handled task htask]; rfl
  rw [diagnostics, NavigationGraph.danglingTargets_eq, NavigationGraph.unreachableTasks_eq,
    funext Task.unhandledOutcomes_eq, hpassages, htasks, List.map_nil, List.nil_append,
    List.append_nil]

/-! ## What is reached -/

/-- From the first task of a section the others are reached one after the other. -/
theorem reaches_of_mem_slots (h : workflow.FollowsSlots places) {ending failure first : String}
    {body : Json} {rest : Document}
    (hslots : ∀ slot ∈ slots ending failure ((first, body) :: rest), slot ∈ places)
    {name : String} (hname : name ∈ Document.keys ((first, body) :: rest)) :
    workflow.Reaches first name := by
  induction rest generalizing first body with
  | nil =>
    rw [List.mem_singleton.mp hname]
    exact .refl
  | cons entry rest ih =>
    obtain ⟨next, nextBody⟩ := entry
    rw [slots_cons, List.forall_mem_cons] at hslots
    obtain ⟨hfirst, hrest⟩ := hslots
    cases List.mem_cons.mp hname with
    | inl heq =>
      rw [heq]
      exact .refl
    | inr hother =>
      have hnext : next ∈ workflow.names :=
        h.name_mem_names (hrest _ (by rw [slots_cons]; exact List.mem_cons_self))
      have hleads : workflow.Leads first next := h.leads_iff.mpr ⟨⟨_, hfirst, rfl, .inr rfl⟩, hnext⟩
      exact .head hleads (ih hrest hother)

variable {first : String} {body : Json} {rest : Document}

/-- The tasks of the main body and of its error section are reached. -/
theorem reaches_of_mem_shallow (h : workflow.FollowsSlots (layout tasks))
    (hsections : ∀ part ∈ sections tasks, IsSection part)
    (hfirst : ordinaryTasks tasks = (first, body) :: rest) {name : String}
    (hname : name ∈ namesOf ((sections tasks).take 2)) : workflow.Reaches first name := by
  have hmain : ∀ slot ∈ slots Outcome.success (recoveryTarget tasks) ((first, body) :: rest),
      slot ∈ layout tasks := fun slot hslot => by
    rw [layout, hfirst]
    exact List.mem_append_left _ hslot
  obtain ⟨part, hpart, hkey⟩ := mem_namesOf.mp hname
  rw [sections, List.take_succ_cons, List.mem_cons] at hpart
  cases hpart with
  | inl heq =>
    rw [heq, hfirst] at hkey
    exact h.reaches_of_mem_slots hmain hkey
  | inr hinner =>
    -- The first task leads to that of the error section, which leads on to the others.
    obtain ⟨deeper, hdeeper⟩ : ∃ deeper, errorSections tasks = part :: deeper := by
      cases herrors : errorSections tasks with
      | nil =>
        rw [herrors] at hinner
        cases hinner
      | cons inner deeper =>
        rw [herrors, List.take_succ_cons, List.take_zero, List.mem_singleton] at hinner
        exact ⟨deeper, by rw [hinner]⟩
    have hpart : part ∈ errorSections tasks := hdeeper ▸ List.mem_cons_self
    have hinhabited := (hsections part (List.mem_cons_of_mem _ hpart)).inhabited
    obtain ⟨⟨next, nextBody⟩, others, hothers⟩ := List.exists_cons_of_ne_nil hinhabited
    have hslots : ∀ slot ∈ slots Outcome.failure Outcome.failure ((next, nextBody) :: others),
        slot ∈ layout tasks := fun slot hslot => by
      refine List.mem_append_right _ (List.mem_flatMap.mpr ⟨part, hpart, ?_⟩)
      rwa [recoverySlots, hothers]
    have htarget : recoveryTarget tasks = next := by
      rw [recoveryTarget_of_cons hdeeper, hothers]
      rfl
    have hnext : next ∈ workflow.names :=
      h.name_mem_names (hslots _ (by rw [slots_cons]; exact List.mem_cons_self))
    have hleads : workflow.Leads first next :=
      h.leads_iff.mpr ⟨⟨_, hmain _ (by rw [slots_cons]; exact List.mem_cons_self), rfl,
        .inl htarget.symm⟩, hnext⟩
    rw [hothers] at hkey
    exact .head hleads (h.reaches_of_mem_slots hslots hkey)

/-- With different names, none of them that of an end, no task of the main body or its error section
leads to a deeper one. -/
theorem mem_shallow_of_leads (h : workflow.FollowsSlots (layout tasks))
    (hnodup : workflow.names.Nodup) (hends : ∀ name ∈ workflow.names, name ∉ Outcome.all)
    {name target : String} (hname : name ∈ namesOf ((sections tasks).take 2))
    (hleads : workflow.Leads name target) : target ∈ namesOf ((sections tasks).take 2) := by
  obtain ⟨⟨slot, hslot, rfl, htarget⟩, hmem⟩ := h.leads_iff.mp hleads
  obtain ⟨part, hpart, hkey, hgood, hbad⟩ := targets_of_mem_layout hslot
  cases htarget with
  | inl hfailure =>
    rw [hfailure] at hmem ⊢
    exact hbad.resolve_left (hends _ hmem)
  | inr hsuccess =>
    rw [hsuccess] at hmem ⊢
    rw [h.names_eq_namesOf, namesOf_sections] at hnodup
    have hshallow : part ∈ (sections tasks).take 2 := by
      rw [← List.take_append_drop 2 (sections tasks), List.mem_append] at hpart
      refine hpart.resolve_right fun hdeep => ?_
      exact List.disjoint_of_nodup_append hnodup hname (mem_namesOf.mpr ⟨part, hdeep, hkey⟩)
    exact mem_namesOf.mpr ⟨part, hshallow, hgood.resolve_left (hends _ hmem)⟩

/-- With such names no task of a deeper section is reached. -/
theorem not_reaches_of_mem_deep (h : workflow.FollowsSlots (layout tasks))
    (hnodup : workflow.names.Nodup) (hends : ∀ name ∈ workflow.names, name ∉ Outcome.all)
    (hfirst : ordinaryTasks tasks = (first, body) :: rest) {name : String}
    (hname : name ∈ namesOf ((sections tasks).drop 2)) : ¬ workflow.Reaches first name := by
  intro hreaches
  have hshallow : name ∈ namesOf ((sections tasks).take 2) := by
    clear hname
    induction hreaches with
    | refl =>
      refine mem_namesOf.mpr ⟨tasks, ?_, by rw [hfirst]; exact List.mem_cons_self⟩
      rw [sections, List.take_succ_cons]
      exact List.mem_cons_self
    | tail _ hleads ih => exact h.mem_shallow_of_leads hnodup hends ih hleads
  rw [h.names_eq_namesOf, namesOf_sections] at hnodup
  exact List.disjoint_of_nodup_append hnodup hshallow hname

/-- If no deeper task is reached, the deeper tasks are those that are not. -/
theorem unreached_eq (h : workflow.FollowsSlots (layout tasks))
    (hsections : ∀ part ∈ sections tasks, IsSection part)
    (hfirst : ordinaryTasks tasks = (first, body) :: rest)
    (hdeep : ∀ name ∈ namesOf ((sections tasks).drop 2), ¬ workflow.Reaches first name) :
    workflow.unreached = namesOf ((sections tasks).drop 2) := by
  classical
  have hnames : workflow.names
      = first :: (Document.keys rest ++ namesOf (errorSections tasks)) := by
    rw [h.names_eq_namesOf, sections, namesOf, List.flatMap_cons, hfirst]
    rfl
  have hunreached : workflow.unreached
      = (namesOf (sections tasks)).filter fun name => ¬ workflow.Reaches first name := by
    rw [← h.names_eq_namesOf, unreached, hnames]
  rw [hunreached, namesOf_sections, List.filter_append,
    List.filter_eq_nil_iff.mpr fun name hname => by
      simpa using h.reaches_of_mem_shallow hsections hfirst hname,
    List.filter_eq_self.mpr fun name hname => by simpa using hdeep name hname, List.nil_append]

end FollowsSlots

end Workflow

/-! ## Flows -/

theorem drop_two_sections_eq_nil {tasks : Document}
    (h : ∀ inner, recovery? tasks = some inner → recovery? inner = none) :
    (sections tasks).drop 2 = [] := by
  cases hrecovery : recovery? tasks with
  | none => rw [sections_of_none hrecovery]; rfl
  | some inner => rw [sections_of_some hrecovery, sections_of_none (h inner hrecovery)]; rfl

/-- Nothing is reported on a flow in which no task says where to go, if the error section has none
of its own. If there are deeper sections, and the names are different and none of them is that of an
end, the report is that each task of these sections is not reached from the first one, in order. -/
theorem default_navigation_report {options : Options} {unit : SourceUnit} {name : String}
    {document tasks : Document} {executable : Executable} (hflow : unit.kind = .flow)
    (h : (Compiler.mk .standard options).assemble unit name document = .ok executable)
    (htasks : document.get? Keyword.workflow = some (.map tasks))
    (hdefault : HasDefaultNavigation tasks) :
    ∃ workflow first, executable.body = .flow workflow ∧ workflow.first = some first
      ∧ ((∀ inner, recovery? tasks = some inner → recovery? inner = none) →
          workflow.diagnostics = [])
      ∧ (workflow.names.Nodup → (∀ name ∈ workflow.names, name ∉ Outcome.all) →
          workflow.diagnostics
              = (namesOf ((sections tasks).drop 2)).map (fun name => .unreachable name first.name)
            ∧ workflow.diagnostics.map (fun diagnostic => (diagnostic.code, diagnostic.task))
              = (namesOf ((sections tasks).drop 2)).map fun name => ("V002", name)) := by
  obtain ⟨found, workflow, hfound, hbody, hsections, hassembled⟩ :=
    Compiler.exists_layout_of_assemble hflow h
  obtain rfl : tasks = found := Json.map.inj (Option.some.inj (htasks.symm.trans hfound))
  obtain ⟨first, hfirst⟩ := Compiler.exists_first_of_assemble hflow h hbody
  have hfollows : workflow.FollowsSlots (layout tasks) :=
    Workflow.followsSlots_of_fits (hassembled.imp fun _ _ => Slot.Assembles.fits rfl)
      hdefault.forall_mem_layout
  obtain ⟨⟨head, headBody⟩, rest, hhead⟩ :=
    List.exists_cons_of_ne_nil (hsections tasks List.mem_cons_self).inhabited
  have hname : workflow.names.headD "" = first.name := by
    obtain ⟨others, hothers⟩ := List.head?_eq_some_iff.mp hfirst
    rw [Workflow.names, hothers]
    rfl
  have hreport := hfollows.diagnostics_eq
  rw [hname] at hreport
  refine ⟨workflow, first, hbody, hfirst, fun hshallow => ?_, fun hnodup hends => ?_⟩
  · have hnone := drop_two_sections_eq_nil hshallow
    rw [hreport, hfollows.unreached_eq hsections hhead (by simp [hnone, namesOf]), hnone]
    rfl
  · have hdeep := hfollows.unreached_eq hsections hhead fun name hmem =>
      hfollows.not_reaches_of_mem_deep hnodup hends hhead hmem
    rw [hreport, hdeep, List.map_map]
    exact ⟨rfl, rfl⟩

/-- The error section of the error section of `relayTasks`. -/
def relayLast : Document :=
  [("alert", .map [(Keyword.callee, .map [("ops.mail", .null)]), (Keyword.navigate, .map [])]),
   ("close", .map [(Keyword.callee, .map [("ops.end", .null)])])]

/-- The error section of `relayTasks`. -/
def relaySecond : Document :=
  [(Keyword.onFailure, .map relayLast),
   ("repair", .map [(Keyword.callee, .map [("ops.fix", .null)])])]

/-- A map of tasks with two error sections below it. -/
def relayTasks : Document :=
  [("fetch", .map [(Keyword.callee, .map [("ops.get", .null)])]),
   (Keyword.onFailure, .map relaySecond),
   ("store", .map [(Keyword.loop, .map
    [(Keyword.header, .string "item in items"), (Keyword.callee, .map [("ops.put", .null)])])])]

/-- The error section of `echoTasks`. -/
def echoSecond : Document :=
  [("again", .map [(Keyword.callee, .map [("ops.fix", .null)])]),
   ("FAILURE", .map [(Keyword.callee, .map [("ops.mail", .null)])])]

/-- A map of tasks, two of which have a name in common and two the names of ends. -/
def echoTasks : Document :=
  [("SUCCESS", .map [(Keyword.callee, .map [("ops.get", .null)])]),
   ("again", .map [(Keyword.callee, .map [("ops.put", .null)])]),
   (Keyword.onFailure, .map echoSecond)]

/-- The unit of both. -/
def relayUnit : SourceUnit where
  name := "demo.relay"
  kind := .flow
  space := "demo"
  imports := some (.ofList [("ops", "org.ops")])

theorem sections_relayTasks : sections relayTasks = [relayTasks, relaySecond, relayLast] := by
  rw [sections_of_some (show recovery? relayTasks = some relaySecond from rfl),
    sections_of_some (show recovery? relaySecond = some relayLast from rfl), sections_of_none rfl]

theorem sections_echoTasks : sections echoTasks = [echoTasks, echoSecond] := by
  rw [sections_of_some (show recovery? echoTasks = some echoSecond from rfl), sections_of_none rfl]

theorem relay_and_echo_reports :
    (∃ executable workflow,
      (Compiler.mk .standard {}).assemble relayUnit "relay" [(Keyword.workflow, .map relayTasks)]
          = .ok executable
        ∧ executable.body = .flow workflow
        ∧ workflow.names = ["fetch", "store", "repair", "alert", "close"]
        ∧ workflow.diagnostics = [.unreachable "alert" "fetch", .unreachable "close" "fetch"])
    ∧ ∃ executable workflow,
      (Compiler.mk .standard .none).assemble relayUnit "echo" [(Keyword.workflow, .map echoTasks)]
          = .ok executable
        ∧ executable.body = .flow workflow
        ∧ workflow.names = ["SUCCESS", "again", "again", "FAILURE"]
        ∧ workflow.diagnostics = [] := by
  have hrelay : HasDefaultNavigation relayTasks := by
    simp only [HasDefaultNavigation, sections_relayTasks, ← List.isEmpty_iff]
    decide
  have hecho : HasDefaultNavigation echoTasks := by
    simp only [HasDefaultNavigation, sections_echoTasks, ← List.isEmpty_iff]
    decide
  obtain ⟨relay, hassembled, hnames⟩ := exists_ok_of_toOption_map
    (show ((Compiler.mk .standard {}).assemble relayUnit "relay"
        [(Keyword.workflow, .map relayTasks)]).toOption.map (fun executable =>
          executable.workflow?.map Workflow.names)
          = some (some ["fetch", "store", "repair", "alert", "close"]) by
      decide +kernel)
  obtain ⟨echo, hassembledEcho, hnamesEcho⟩ := exists_ok_of_toOption_map
    (show ((Compiler.mk .standard .none).assemble relayUnit "echo"
        [(Keyword.workflow, .map echoTasks)]).toOption.map (fun executable =>
          executable.workflow?.map Workflow.names)
          = some (some ["SUCCESS", "again", "again", "FAILURE"]) by
      decide +kernel)
  obtain ⟨workflow, first, hbody, hfirst, -, hreport⟩ :=
    default_navigation_report rfl hassembled rfl hrelay
  obtain ⟨workflowEcho, -, hbodyEcho, -, hreportEcho, -⟩ :=
    default_navigation_report rfl hassembledEcho rfl hecho
  simp only [Executable.workflow?, hbody, hbodyEcho, Option.map_some, Option.some.injEq]
    at hnames hnamesEcho
  refine ⟨⟨relay, workflow, hassembled, hbody, hnames, ?_⟩,
    ⟨echo, workflowEcho, hassembledEcho, hbodyEcho, hnamesEcho, hreportEcho fun inner hinner => ?_⟩⟩
  · obtain ⟨rest, hrest⟩ := List.head?_eq_some_iff.mp hfirst
    have hhead : first.name = "fetch" := by
      rw [Workflow.names, hrest, List.map_cons] at hnames
      exact (List.cons.inj hnames).1
    obtain ⟨hdiagnostics, -⟩ :=
      hreport (by rw [hnames]; decide) (by rw [hnames]; decide)
    rw [hdiagnostics, hhead, sections_relayTasks]
    rfl
  · obtain rfl : echoSecond = inner := Option.some.inj hinner
    rfl

end FlowCompiler
