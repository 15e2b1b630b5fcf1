import FlowCompiler.Json.Grammar

/-!
# What readers take

`Takes reader text value rest` says that the reader takes the value from the front of the text and
leaves the rest. For each way of putting readers together there is a rule for what the whole takes,
so that the readers need not be unfolded again. A repetition takes items that are printed one behind
the other (`Takes.loop`, `Takes.many`); lists and maps take their items and entries behind commas
(`takes_readItems`, `takes_readMap`).
-/

namespace FlowCompiler.Json

universe u v w

/-- The reader takes the value from the front of the text and leaves the rest. -/
def Takes {α : Type u} (reader : Reader α) (text : List Char) (value : α) (rest : List Char) :
    Prop :=
  ∃ shorter, reader text = .ok ⟨value, rest, shorter⟩

section Combinators

variable {α : Type u} {β : Type v} {γ : Type w} {text middle rest last : List Char}

protected theorem Takes.map {reader : Reader α} {value : α} (h : Takes reader text value rest)
    (f : α → β) : Takes (Reader.map f reader) text (f value) rest := by
  obtain ⟨hlt, hread⟩ := h
  exact ⟨hlt, by rw [Reader.map, hread]; rfl⟩

protected theorem Takes.andThen {first : Reader α} {second : α → Reader β} {value : α} {result : β}
    (hfirst : Takes first text value middle) (hsecond : Takes (second value) middle result rest) :
    Takes (first.andThen second) text result rest := by
  obtain ⟨hlt, hread⟩ := hfirst
  obtain ⟨hlt', hread'⟩ := hsecond
  exact ⟨Nat.lt_trans hlt' hlt, by simp only [Reader.andThen, hread, hread', Step.after]⟩

theorem Takes.loop_end {element : α → Reader (Option α)} {state : α}
    (h : Takes (element state) text none rest) :
    Takes (Reader.loop element state) text state rest := by
  obtain ⟨hlt, hread⟩ := h
  exact ⟨hlt, by rw [Reader.loop, hread]⟩

theorem Takes.loop_next {element : α → Reader (Option α)} {state changed final : α}
    (h : Takes (element state) text (some changed) middle)
    (hmore : Takes (Reader.loop element changed) middle final rest) :
    Takes (Reader.loop element state) text final rest := by
  obtain ⟨hlt, hread⟩ := h
  obtain ⟨hlt', hread'⟩ := hmore
  refine ⟨Nat.lt_trans hlt' hlt, ?_⟩
  rw [Reader.loop, hread]
  simp only [hread', Step.after]

/-- A loop over what is printed for some items, one behind the other, goes through them in order. -/
protected theorem Takes.loop {element : α → Reader (Option α)} {change : α → γ → α}
    {printed : γ → List Char} {items : List γ}
    (hitem : ∀ item ∈ items, ∀ state more,
      Takes (element state) (printed item ++ more) (some (change state item)) more)
    (hend : ∀ state, Takes (element state) last none rest) (state : α) :
    Takes (Reader.loop element state) (items.flatMap printed ++ last) (items.foldl change state)
      rest := by
  induction items generalizing state with
  | nil => exact loop_end (hend state)
  | cons item others ih =>
    obtain ⟨hfirst, hothers⟩ := List.forall_mem_cons.mp hitem
    rw [List.flatMap_cons, List.append_assoc, List.foldl_cons]
    exact loop_next (hfirst state _) (ih hothers _)

theorem reverse_foldl_cons (value : γ → α) (items : List γ) (earlier : List α) :
    (items.foldl (fun earlier item => value item :: earlier) earlier).reverse
      = earlier.reverse ++ items.map value := by
  rw [List.foldl_flip_cons_eq_append, List.reverse_append, List.reverse_reverse]

protected theorem Takes.many {element : Reader (Option α)} {value : γ → α}
    {printed : γ → List Char} {items : List γ}
    (hitem : ∀ item ∈ items, ∀ more, Takes element (printed item ++ more) (some (value item)) more)
    (hend : Takes element last none rest) (earlier : List α) :
    Takes (Reader.many element earlier) (items.flatMap printed ++ last)
      (earlier.reverse ++ items.map value) rest := by
  -- The loop goes from what has been read before to what has been read after, both backwards.
  have hloop : Takes
      (Reader.loop (fun earlier => Reader.map (Option.map (· :: earlier)) element) earlier)
      (items.flatMap printed ++ last)
      (items.foldl (fun earlier item => value item :: earlier) earlier) rest :=
    Takes.loop
      (fun item hmem earlier more => (hitem item hmem more).map (Option.map (· :: earlier)))
      (fun earlier => hend.map (Option.map (· :: earlier))) earlier
  have hmany := hloop.map List.reverse
  rwa [reverse_foldl_cons] at hmany

end Combinators

/-! ## Lists -/

section Lists

variable {α : Type u} {γ : Type w} {comma : CommaCauses} {text rest : List Char} {c : Char}

theorem skipSpace_cons (h : isSpace c = false) : skipSpace (c :: text) = c :: text :=
  List.dropWhile_cons_of_neg (by simp [h])

/-- The text begins with a character that neither is white space nor ends a list. -/
def StartsItem (text : List Char) : Prop :=
  ∃ c more, text = c :: more ∧ isSpace c = false ∧ c ≠ ']'

theorem StartsItem.append (h : StartsItem text) (rest : List Char) : StartsItem (text ++ rest) := by
  obtain ⟨c, more, rfl, hspace, hend⟩ := h
  exact ⟨c, more ++ rest, rfl, hspace, hend⟩

theorem takes_nextItem_end {item : Reader α} :
    Takes (nextItem comma item) (']' :: rest) none rest :=
  ⟨Nat.lt_succ_self _, rfl⟩

theorem nextItem_comma {item : Reader α} (hstart : StartsItem text) :
    nextItem comma item (',' :: text)
      = (item text).map fun step => (step.map some).afterChar := by
  obtain ⟨c, more, rfl, hspace, hend⟩ := hstart
  have hcomma : skipSpace (',' :: c :: more) = ',' :: c :: more := skipSpace_cons rfl
  unfold nextItem
  split
  · next hempty => rw [hcomma] at hempty; cases hempty
  · next d behind hskip =>
    rw [hcomma] at hskip
    obtain ⟨rfl, rfl⟩ := List.cons.inj hskip
    rw [if_neg (by decide), if_pos rfl]
    split
    · next hbehind =>
      rw [skipSpace_cons hspace] at hbehind
      exact absurd (List.cons.inj hbehind).1 hend
    · rfl

protected theorem Takes.nextItem {item : Reader α} {value : α} (h : Takes item text value rest)
    (hstart : StartsItem text) : Takes (nextItem comma item) (',' :: text) (some value) rest := by
  obtain ⟨hlt, hread⟩ := h
  exact ⟨Nat.lt_succ_of_lt hlt, by rw [nextItem_comma hstart, hread]; rfl⟩

theorem takes_readItems_nil {item : Reader α} :
    Takes (readItems comma item) (']' :: rest) [] rest :=
  ⟨Nat.lt_succ_self _, rfl⟩

theorem readItems_of_startsItem {item : Reader α} (hstart : StartsItem text) :
    readItems comma item text
      = item.andThen (fun first => Reader.many (nextItem comma item) [first]) text := by
  obtain ⟨c, more, rfl, hspace, hend⟩ := hstart
  unfold readItems
  split
  · next hempty => rw [skipSpace_cons hspace] at hempty; cases hempty
  · next d behind hskip =>
    rw [skipSpace_cons hspace] at hskip
    obtain ⟨rfl, -⟩ := List.cons.inj hskip
    rw [if_neg hend]

/-- The items of a list are taken in order if each of them is. -/
theorem takes_readItems {item : Reader α} {value : γ → α} {printed : γ → List Char} {first : γ}
    {others : List γ}
    (hitem : ∀ member ∈ first :: others, ∀ more,
      Takes item (printed member ++ more) (value member) more)
    (hstart : ∀ member ∈ first :: others, StartsItem (printed member)) :
    Takes (readItems comma item)
      (printed first ++ (others.flatMap (fun member => ',' :: printed member) ++ ']' :: rest))
      (value first :: others.map value) rest := by
  obtain ⟨hfirst, hothers⟩ := List.forall_mem_cons.mp hitem
  obtain ⟨hstartFirst, hstartOthers⟩ := List.forall_mem_cons.mp hstart
  have hmany : Takes (Reader.many (nextItem comma item) [value first])
      (others.flatMap (fun member => ',' :: printed member) ++ ']' :: rest)
      ([value first].reverse ++ others.map value) rest :=
    Takes.many (fun member hmem more => (hothers member hmem more).nextItem
      ((hstartOthers member hmem).append more)) takes_nextItem_end _
  have hall : Takes (item.andThen fun first => Reader.many (nextItem comma item) [first])
      (printed first ++ (others.flatMap (fun member => ',' :: printed member) ++ ']' :: rest))
      (value first :: others.map value) rest := (hfirst _).andThen hmany
  rwa [Takes, readItems_of_startsItem (hstartFirst.append _)]

end Lists

/-! ## Maps -/

section Maps

variable {κ : Type u} {α : Type v} {γ : Type w} {comma : CommaCauses} {text middle rest : List Char}

theorem takes_readColon : Takes readColon (':' :: rest) () rest :=
  ⟨Nat.lt_succ_self _, rfl⟩

protected theorem Takes.readEntry {key : Reader κ} {value : Reader α} {name : κ} {held : α}
    (hkey : Takes key text name (':' :: middle)) (hvalue : Takes value middle held rest) :
    Takes (readEntry key value) text (name, held) rest :=
  hkey.andThen (takes_readColon.andThen (hvalue.map _))

theorem takes_nextEntry_end {entry : Reader α} :
    Takes (nextEntry comma entry) ('\x7d' :: rest) none rest :=
  ⟨Nat.lt_succ_self _, rfl⟩

protected theorem Takes.nextEntry {entry : Reader α} {value : α} (h : Takes entry text value rest) :
    Takes (nextEntry comma entry) (',' :: '"' :: text) (some value) rest := by
  obtain ⟨hlt, hread⟩ := h
  have hentry : nextEntry comma entry (',' :: '"' :: text)
      = (entry text).map fun step => (step.map some).afterChar.afterChar := rfl
  exact ⟨Nat.lt_succ_of_lt (Nat.lt_succ_of_lt hlt), by rw [hentry, hread]; rfl⟩

protected theorem Takes.readEntries {entry : α → Reader α} {state changed final : α}
    (hfirst : Takes (entry state) text changed middle)
    (hothers : Takes (Reader.loop (fun state => nextEntry comma (entry state)) changed) middle
      final rest) : Takes (readEntries comma entry state) ('"' :: text) final rest := by
  obtain ⟨hlt, hread⟩ := hfirst.andThen hothers
  have hentries : readEntries comma entry state ('"' :: text)
      = ((entry state).andThen (Reader.loop fun state => nextEntry comma (entry state))
        text).map Step.afterChar := rfl
  exact ⟨Nat.lt_succ_of_lt hlt, by rw [hentries, hread]; rfl⟩

theorem takes_readMap_nil {entry : Reader α} :
    Takes (readMap comma entry) ('\x7d' :: rest) [] rest :=
  ⟨Nat.lt_succ_self _, rfl⟩

/-- The entries of a map are taken in order if each of them is, behind the opening quote. -/
theorem takes_readMap {entry : Reader α} {value : γ → α} {printed : γ → List Char} {first : γ}
    {others : List γ}
    (hentry : ∀ member ∈ first :: others, ∀ more,
      Takes entry (printed member ++ more) (value member) more) :
    Takes (readMap comma entry)
      ('"' :: (printed first
        ++ (others.flatMap (fun member => ',' :: '"' :: printed member) ++ '\x7d' :: rest)))
      (value first :: others.map value) rest := by
  obtain ⟨hfirst, hothers⟩ := List.forall_mem_cons.mp hentry
  have hloop : Takes
      (Reader.loop (fun earlier => nextEntry comma (Reader.map (· :: earlier) entry)) [value first])
      (others.flatMap (fun member => ',' :: '"' :: printed member) ++ '\x7d' :: rest)
      (others.foldl (fun earlier member => value member :: earlier) [value first]) rest :=
    Takes.loop
      (fun member hmem earlier more => ((hothers member hmem more).map _).nextEntry)
      (fun _ => takes_nextEntry_end) _
  have hentries : Takes (readEntries comma (fun earlier => Reader.map (· :: earlier) entry) []) _ _
      rest := Takes.readEntries ((hfirst _).map (· :: [])) hloop
  have hmap := hentries.map List.reverse
  rwa [reverse_foldl_cons] at hmap

end Maps

end FlowCompiler.Json
