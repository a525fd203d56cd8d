import DigitRace.Proofs.Cabinet.Calling
import DigitRace.Proofs.Cabinet.Scribe
import DigitRace.Proofs.Course.Sequence
import DigitRace.Proofs.Demo.Press

/-!
# The self test of the key

The self test shows how the key stands at first, and then a pattern for each edge that it hears. It
hears an edge while it waits and nothing else is left to do. With each edge its watch leaves the
key, and the next watch is opened once the task was called and has shown the edge; an edge that
comes in between is missed, and from then on the digit may contradict the key.
-/

namespace DigitRace

/-- What is noted of the edges during the self test of the key. -/
inductive EdgeNote where
  /-- The key was moved while nothing else was left to do. -/
  | heard (pressed : Bool)
  /-- The key was moved while something else was left to do. -/
  | missed (pressed : Bool)
  /-- The self test was over. -/
  | beyond
  deriving DecidableEq

/-- The edges that were heard. -/
def EdgeNote.edges (notes : List EdgeNote) : List Bool :=
  notes.filterMap fun
    | .heard pressed => some pressed
    | _ => none

@[simp] theorem EdgeNote.edges_append (notes later : List EdgeNote) :
    edges (notes ++ later) = edges notes ++ edges later :=
  List.filterMap_append

namespace Cabinet

/-- What is noted of a happening during a self test of the key that was called above `depth`
frames. -/
def edgeNotes {ω : Type} (depth : Nat) (c : Cabinet ω) (happening : Happening) (_ : Cabinet ω) :
    List EdgeNote :=
  if isBack depth c then [.beyond]
  else match happening with
    | .move pressed => if c.Settled then [.heard pressed] else [.missed pressed]
    | _ => []

/-- The pattern of an edge, and of how the key stands at first. -/
def edgePattern (pressed : Bool) : String :=
  if pressed then "d" else "ceg"

variable {clock : Cabinet Writes → Rat} {c c' c₁ : Cabinet Writes} {rounds : Option Int}
  {stack : List Frame} {begun : Writes} {down pressed : Bool} {notes : List EdgeNote}
  {edges : List Bool} {state : Task.State} {w n : Nat} {happening : Happening}

/-- The digit was shown how the key stands at first, and then these edges. -/
def ShowsEdges (begun : Writes) (down : Bool) (edges : List Bool) (c : Cabinet Writes) : Prop :=
  c.outside.map Prod.snd = begun.map Prod.snd ++ (down :: edges).map edgePattern

/-- How the self test of the key stands. The key was `down` at its call or not, and `edges` were
heard since. -/
inductive InKeyTest (rounds : Option Int) (stack : List Frame) (begun : Writes) (down : Bool)
    (edges : List Bool) (c : Cabinet Writes) : Prop
  | calling (hcarried : Carried (.calling (.selfTest .keys (gameLimit rounds))) stack c)
      (hbegun : c.outside = begun) (hdown : c.key.pressed = down) (hnone : edges = [])
  | waiting {w : Nat} (hlistening : Listening .edge w c)
      (htasks : c.tasks = #[{
        state := .waiting w, stack := .edgeSeen (edges.length + 1) (gameLimit rounds) :: stack }])
      (hshows : ShowsEdges begun down edges c) (hmore : ∀ g, rounds = some g → edges.length < g)
  /-- An edge was heard and is not shown yet. -/
  | told {w : Nat} {shown : List Bool} {pressed : Bool}
      (hqueued : Queued (.waiting w)
        (.edgeSeen (shown.length + 1) (gameLimit rounds) :: stack) c)
      (hanswer : (c.watches[w]?).bind Watch.ending = some (.answered (.flag pressed)))
      (hshows : ShowsEdges begun down shown c) (hedges : edges = shown ++ [pressed])
      (hmore : ∀ g, rounds = some g → shown.length < g)
  | telling {shown : List Bool} {pressed : Bool}
      (hcarried : Carried (.answering (.flag pressed))
        (.edgeSeen (shown.length + 1) (gameLimit rounds) :: stack) c)
      (hshows : ShowsEdges begun down shown c) (hedges : edges = shown ++ [pressed])
      (hmore : ∀ g, rounds = some g → shown.length < g)
  | back {g : Int} (hcarried : Carried (.answering .nothing) stack c)
      (hshows : ShowsEdges begun down edges c) (hrounds : rounds = some g)
      (hall : edges.length = g.toNat)

/-- The self test of the key stands somewhere, and the display is observed. -/
structure KeyTested (rounds : Option Int) (stack : List Frame) (begun : Writes) (down : Bool)
    (edges : List Bool) (c : Cabinet Writes) : Prop where
  stands : InKeyTest rounds stack begun down edges c
  clocked : c.Clocked
  observed : c.display.observer.isSome = true

/-! ## One edge after the other -/

/-- A pattern that is written shows one more edge. -/
theorem ShowsEdges.written (h : ShowsEdges begun down edges c)
    (hobserved : c.display.observer.isSome = true) (pressed : Bool) :
    ShowsEdges begun down (edges ++ [pressed]) (c.written (edgePattern pressed)) := by
  unfold ShowsEdges at h ⊢
  rw [written_outside hobserved, List.map_append, h]
  simp

/-- The next edge is waited for, if there is one to be shown. -/
theorem continueEdges_apply (hdeaf : c.Deaf) : continueEdges n (gameLimit rounds) c =
    if rounds.all fun g => decide ((n : Int) < g) then
      .ok (.await c.watches.size (some (.edgeSeen (n + 1) (gameLimit rounds)))) (c.opened .edge)
    else .ok (.done .nothing) c := by
  cases hmore : rounds.all fun g => decide ((n : Int) < g) <;>
    simp [continueEdges, allows_gameLimit, hmore, openWatch, watchKey, keyOf, Key.register, opened,
      Watch.Kind.hearsTimer, Watch.Kind.hearsKey, hdeaf.2, ← hdeaf.1]

/-- After the edges that were shown the self test waits for the next one, or is over. -/
theorem keyTested_continues {act : Play Writes Progress}
    (hact : act c = continueEdges edges.length (gameLimit rounds) c₁)
    (hcarried : Carried state stack c₁) (hclocked : c₁.Clocked)
    (hobserved : c₁.display.observer.isSome = true) (hshows : ShowsEdges begun down edges c₁)
    (hmost : ∀ g, rounds = some g → edges.length ≤ g.toNat) :
    KeyTested rounds stack begun down edges (carry 0 act c) ∧
      ShowsEdges begun down edges (carry 0 act c) := by
  rw [continueEdges_apply hcarried.deaf] at hact
  split_ifs at hact with hmore
  · have hopened := opened_opened (c := c₁) .edge hcarried.ready
    rw [carry_await hact hcarried.tasks hopened]
    refine ⟨⟨.waiting (hopened.listening _) rfl hshows fun g hrounds => ?_, hclocked, hobserved⟩,
      hshows⟩
    subst hrounds
    simpa using hmore
  · rw [carry_done hact hcarried.tasks]
    obtain ⟨g, rfl⟩ : ∃ g, rounds = some g := by
      cases rounds with
      | none => simp at hmore
      | some g => exact ⟨g, rfl⟩
    have hleast : ¬ (edges.length : Int) < g := by simpa using hmore
    have hall := hmost g rfl
    exact ⟨⟨.back (hcarried.goesOver _ _) hshows rfl (by omega),
      hclocked, hobserved⟩, hshows⟩

/-- The self test begins with how the key stands. -/
theorem keyTested_begins
    (hcarried : Carried (.calling (.selfTest .keys (gameLimit rounds))) stack c)
    (hclocked : c.Clocked) (hobserved : c.display.observer.isSome = true) :
    KeyTested rounds stack c.outside c.key.pressed []
        (carryOn (Onlooker.scribe clock).around 0 c) ∧
      ShowsEdges c.outside c.key.pressed [] (carryOn (Onlooker.scribe clock).around 0 c) := by
  have hshow : showCharacter (Onlooker.scribe clock).around
      (.text (if c.key.pressed then "_" else "n")) c =
        .ok ⟨⟩ (c.written (edgePattern c.key.pressed)) := by
    rw [scribe_showCharacter]
    cases c.key.pressed <;> rfl
  have hact : begin (Onlooker.scribe clock).around (.selfTest .keys (gameLimit rounds)) c =
      continueEdges 0 (gameLimit rounds) (c.written (edgePattern c.key.pressed)) := by
    simp only [begin, beginTest, Act.bind_apply, Act.get_apply, hshow]
  rw [hcarried.carryOn_calling]
  refine keyTested_continues hact ⟨hcarried.tasks, hcarried.active, hcarried.ready, hcarried.deaf⟩
    hclocked hobserved ?_ fun _ _ => Nat.zero_le _
  simp [ShowsEdges, written_outside hobserved]

/-- An edge that was heard is shown. -/
theorem keyTested_shows (hcarried : Carried (.answering (.flag pressed))
      (.edgeSeen (edges.length + 1) (gameLimit rounds) :: stack) c)
    (hshows : ShowsEdges begun down edges c) (hmore : ∀ g, rounds = some g → edges.length < g)
    (hclocked : c.Clocked) (hobserved : c.display.observer.isSome = true) :
    KeyTested rounds stack begun down (edges ++ [pressed])
        (carryOn (Onlooker.scribe clock).around 0 c) ∧
      ShowsEdges begun down (edges ++ [pressed])
        (carryOn (Onlooker.scribe clock).around 0 c) := by
  let popped : Cabinet Writes :=
    { c with tasks := #[{ state := .answering (.flag pressed), stack }] }
  have hpattern : (if Answer.flag pressed = .flag true then "d" else "ceg") =
      edgePattern pressed := by
    cases pressed <;> rfl
  have hact : resume (Onlooker.scribe clock).around (.flag pressed)
      (.edgeSeen (edges.length + 1) (gameLimit rounds)) popped =
        continueEdges (edges ++ [pressed]).length (gameLimit rounds)
          (popped.written (edgePattern pressed)) := by
    simp only [resume, Act.bind_apply, hpattern, scribe_showPattern, List.length_append,
      List.length_singleton]
  have hpopped : ShowsEdges begun down edges popped := hshows
  rw [hcarried.carryOn_answering]
  refine keyTested_continues hact ⟨rfl, hcarried.active, hcarried.ready, hcarried.deaf⟩
    hclocked hobserved (hpopped.written hobserved pressed) fun g hrounds => ?_
  have hroom := hmore g hrounds
  rw [List.length_append, List.length_singleton]
  omega

/-! ## Whatever happens -/

/-- Where nobody listens, the self test stays as it is. -/
theorem ShowsEdges.passes (h : ShowsEdges begun down edges c)
    (hpasses : Passes (Onlooker.scribe clock) c happening c') : ShowsEdges begun down edges c' := by
  rwa [ShowsEdges, hpasses.outside_eq]

/-- A wait for an edge ends with it, and everything else passes. -/
theorem Listening.hearsEdge (h : Listening .edge w c) (hclocked : c.Clocked)
    (hhappens : Happens (Onlooker.scribe clock).around c happening c') :
    (∃ pressed, happening = .move pressed ∧
        c' = left w (.flag pressed) (Cabinet.moved (Onlooker.scribe clock) pressed c)) ∨
      Passes (Onlooker.scribe clock) c happening c' ∧ ∀ pressed, happening ≠ .move pressed := by
  rcases h.cases hclocked hhappens with
    ⟨pressed, -, rfl, rfl⟩ | ⟨_, _, htimer, -⟩ | ⟨hpasses, hmisses⟩
  · left
    refine ⟨pressed, rfl, move_one _ h.key ?_⟩
    have hmoved := h.moved (Onlooker.scribe clock) pressed
    have hleave := hmoved.leaveKey_apply rfl (.flag pressed)
    simp only [onEdge, Act.bind_apply _ _ (Cabinet.moved _ _ _), Act.get_apply, hmoved.watch]
    exact hleave
  · cases htimer
  · refine .inr ⟨hpasses, ?_⟩
    rintro pressed rfl
    cases hmisses

theorem edgeNotes_apart (hback : isBack stack.length c = false)
    (happart : ∀ pressed, happening ≠ .move pressed) :
    edgeNotes stack.length c happening c' = [] := by
  cases happening with
  | move pressed => exact absurd rfl (happart pressed)
  | _ => simp [edgeNotes, hback]

/-- While something else is left to do, no edge is heard. -/
theorem edges_unsettled (hsettled : ¬ c.Settled) (depth : Nat) :
    EdgeNote.edges (edgeNotes depth c happening c') = [] := by
  unfold edgeNotes
  split
  · rfl
  · cases happening <;> rfl

/-- Whatever happens before the self test is over, it stands somewhere with the edges that were
heard. -/
theorem KeyTested.next (h : KeyTested rounds stack begun down edges c)
    (hhappens : Happens (Onlooker.scribe clock).around c happening c')
    (hbeyond : .beyond ∉ edgeNotes stack.length c happening c') :
    KeyTested rounds stack begun down
      (edges ++ EdgeNote.edges (edgeNotes stack.length c happening c')) c' := by
  obtain ⟨hstands, hclocked, hobserved⟩ := h
  cases hstands with
  | calling hcarried hbegun hdown hnone =>
    obtain ⟨rfl, rfl⟩ := hcarried.cases hhappens
    rw [edges_unsettled hcarried.not_settled, List.append_nil, hnone, ← hbegun, ← hdown]
    exact (keyTested_begins hcarried hclocked hobserved).1
  | @waiting w hlistening htasks hshows hmore =>
    have hback := isBack_of_waiting htasks stack.length
    rcases hlistening.hearsEdge hclocked hhappens with ⟨pressed, rfl, rfl⟩ | ⟨hpasses, happart⟩
    · have hanswered := (hlistening.moved (Onlooker.scribe clock) pressed).left_answered
        (.flag pressed)
      have hheard : EdgeNote.edges (edgeNotes stack.length c (.move pressed)
          (left w (.flag pressed) (moved (Onlooker.scribe clock) pressed c))) = [pressed] := by
        simp [edgeNotes, hback, Settled, hlistening.active, hlistening.ready, EdgeNote.edges]
      rw [hheard]
      refine ⟨.told (hanswered.queued htasks) hanswered.watch ?_ rfl hmore, hclocked, hobserved⟩
      simpa [ShowsEdges, left] using hshows
    · have hkept := hpasses.kept
      rw [edgeNotes_apart hback happart, show EdgeNote.edges [] = [] from rfl, List.append_nil]
      exact ⟨.waiting (hkept.listening hlistening) (hkept.tasks.trans htasks)
        (hshows.passes hpasses) hmore, hpasses.clocked hclocked, by rwa [hkept.display]⟩
  | told hqueued hanswer hshows hedges hmore =>
    rw [edges_unsettled hqueued.not_settled, List.append_nil]
    rcases hqueued.cases hclocked hhappens with hpasses | ⟨rfl, rfl⟩
    · have hkept := hpasses.kept
      refine ⟨.told (hkept.queued hqueued) ?_ (hshows.passes hpasses) hedges hmore,
        hpasses.clocked hclocked, by rwa [hkept.display]⟩
      rwa [hkept.watches]
    · obtain ⟨hcarried, hwake⟩ := hqueued.wake_waiting hanswer
      rw [hwake] at hcarried ⊢
      exact ⟨.telling hcarried hshows hedges hmore, hclocked, hobserved⟩
  | telling hcarried hshows hedges hmore =>
    obtain ⟨rfl, rfl⟩ := hcarried.cases hhappens
    rw [edges_unsettled hcarried.not_settled, List.append_nil, hedges]
    exact (keyTested_shows hcarried hshows hmore hclocked hobserved).1
  | back hcarried =>
    simp [edgeNotes, hcarried.isBack_answering] at hbeyond

/-! ## Runs -/

/-- The self test of the key stands somewhere after every run that does not lead beyond it. -/
theorem Run.keyTested {first : Cabinet Writes}
    (hrun : Run (Onlooker.scribe clock).around (edgeNotes stack.length) first notes c)
    (hcalled : Carried (.calling (.selfTest .keys (gameLimit rounds))) stack first)
    (hclocked : first.Clocked) (hobserved : first.display.observer.isSome = true)
    (hbeyond : .beyond ∉ notes) :
    KeyTested rounds stack first.outside first.key.pressed (EdgeNote.edges notes) c := by
  induction hrun with
  | start => exact ⟨.calling hcalled rfl rfl rfl, hclocked, hobserved⟩
  | next _ hhappens ih =>
    rw [List.mem_append, not_or] at hbeyond
    rw [EdgeNote.edges_append]
    exact (ih hbeyond.1).next hhappens hbeyond.2

/-- Where nothing else is left to do, all that was heard is shown. -/
theorem KeyTested.shows (h : KeyTested rounds stack begun down edges c) (hsettled : c.Settled) :
    ShowsEdges begun down edges c := by
  cases h.stands with
  | calling hcarried => exact absurd hsettled hcarried.not_settled
  | waiting _ _ hshows => exact hshows
  | told hqueued => exact absurd hsettled hqueued.not_settled
  | telling hcarried => exact absurd hsettled hcarried.not_settled
  | back hcarried => exact absurd hsettled hcarried.not_settled

/-- The self test comes to its end with the last edge that it was asked for. -/
theorem KeyTested.answers {answer : Answer} (h : KeyTested rounds stack begun down edges c)
    (hcarried : Carried (.answering answer) stack c) : answer = .nothing ∧
      ShowsEdges begun down edges c ∧ ∃ g, rounds = some g ∧ edges.length = g.toNat := by
  cases h.stands with
  | calling hother => cases (hcarried.task_eq hother.tasks).1
  | waiting _ htasks => cases (hcarried.task_eq htasks).1
  | told hqueued => cases (hcarried.task_eq hqueued.tasks).1
  | telling hother => exact absurd (hcarried.task_eq hother.tasks).2 (by simp)
  | back hother hshows hrounds hall =>
    cases (hcarried.task_eq hother.tasks).1
    exact ⟨rfl, hshows, _, hrounds, hall⟩

theorem KeyTested.length_le (h : KeyTested rounds stack begun down edges c) {g : Int}
    (hrounds : rounds = some g) : edges.length ≤ g.toNat := by
  cases h.stands with
  | calling _ _ _ hnone => simp [hnone]
  | waiting _ _ _ hmore =>
    have := hmore g hrounds
    omega
  | told _ _ _ hedges hmore =>
    have := hmore g hrounds
    rw [hedges, List.length_append, List.length_singleton]
    omega
  | telling _ _ hedges hmore =>
    have := hmore g hrounds
    rw [hedges, List.length_append, List.length_singleton]
    omega
  | back _ _ hother hall =>
    obtain rfl := Option.some.inj (hrounds.symm.trans hother)
    exact hall.le

/-- All that was heard is shown two steps of the program later at most. -/
theorem KeyTested.shows_run (h : KeyTested rounds stack begun down edges c) (horizon : Rat) :
    ∃ steps ≤ 2, ShowsEdges begun down edges
      (run (Onlooker.scribe clock).around (fun _ => false) horizon steps c) := by
  cases h.stands with
  | calling hcarried hbegun hdown hnone =>
    subst hbegun hdown hnone
    refine ⟨1, by decide, ?_⟩
    rw [run_step (hcarried.step? horizon)]
    exact (keyTested_begins hcarried h.clocked h.observed).2
  | waiting _ _ hshows => exact ⟨0, by decide, hshows⟩
  | told hqueued hanswer hshows hedges hmore =>
    obtain ⟨hcarried, hwake⟩ := hqueued.wake_waiting hanswer
    subst hedges
    refine ⟨2, le_rfl, ?_⟩
    rw [run_step (hqueued.step? horizon), run_step (hcarried.step? horizon)]
    rw [hwake] at hcarried ⊢
    exact (keyTested_shows hcarried hshows hmore h.clocked h.observed).2
  | telling hcarried hshows hedges hmore =>
    subst hedges
    refine ⟨1, by decide, ?_⟩
    rw [run_step (hcarried.step? horizon)]
    exact (keyTested_shows hcarried hshows hmore h.clocked h.observed).2
  | back _ hshows => exact ⟨0, by decide, hshows⟩

/-- An edge is heard, unless the task is about to be called. -/
theorem KeyTested.hears (h : KeyTested rounds stack begun down edges c)
    (hactive : c.active = none) : c.Settled ∨ c.agenda.ready = [.task 0] := by
  cases h.stands with
  | calling hcarried => simp [hcarried.active] at hactive
  | waiting hlistening => exact .inl ⟨hactive, hlistening.ready⟩
  | told hqueued => exact .inr hqueued.ready
  | telling hcarried => simp [hcarried.active] at hactive
  | back hcarried => simp [hcarried.active] at hactive

/-- **The self test shows the edges that it hears.** Call the self test of the key, for any number
of rounds or without end, and let anything happen up to its answer. Where nothing else is left to
do, the digit was shown how the key stood at the call and then each edge that was heard, in order;
and wherever the run stands, two steps of the program at most show what was heard. There are never
more edges than rounds, and the self test is over with the last of them. An edge is heard at all
times but one: while task 0 is about to be called after another edge. -/
theorem key_test_shows_heard_edges {first : Cabinet Writes}
    (hcalled : Carried (.calling (.selfTest .keys (gameLimit rounds))) stack first)
    (hclocked : first.Clocked) (hobserved : first.display.observer.isSome = true)
    (hrun : Run (Onlooker.scribe clock).around (edgeNotes stack.length) first notes c)
    (hbeyond : .beyond ∉ notes) :
    (c.Settled → ShowsEdges first.outside first.key.pressed (EdgeNote.edges notes) c) ∧
    (∀ horizon, ∃ steps ≤ 2, ShowsEdges first.outside first.key.pressed (EdgeNote.edges notes)
      (run (Onlooker.scribe clock).around (fun _ => false) horizon steps c)) ∧
    (∀ g, rounds = some g → (EdgeNote.edges notes).length ≤ g.toNat) ∧
    (∀ answer, Carried (.answering answer) stack c → answer = .nothing ∧
      ShowsEdges first.outside first.key.pressed (EdgeNote.edges notes) c ∧
        ∃ g, rounds = some g ∧ (EdgeNote.edges notes).length = g.toNat) ∧
    ∀ pressed c', Happens (Onlooker.scribe clock).around c (.move pressed) c' →
      .beyond ∉ edgeNotes stack.length c (.move pressed) c' →
      edgeNotes stack.length c (.move pressed) c' = [.heard pressed] ∨
        c.agenda.ready = [.task 0] := by
  have htested := hrun.keyTested hcalled hclocked hobserved hbeyond
  refine ⟨htested.shows, htested.shows_run, fun _ => htested.length_le,
    fun _ => htested.answers, fun pressed c' hhappens hbefore => ?_⟩
  cases hhappens with
  | move _ hactive =>
    rcases htested.hears hactive with hsettled | hready
    · left
      cases hback : isBack stack.length c with
      | true => simp [edgeNotes, hback] at hbefore
      | false => simp [edgeNotes, hback, hsettled]
    · exact .inr hready

/-- The self test of the key is called without end by nobody, while the key is up. -/
def keyTestCalled : Cabinet Writes :=
  calledAlone (.selfTest .keys (gameLimit none)) false

/-- A press and a release, with the steps of the program after each, are shown. -/
theorem key_test_shows_heard_edges_apart :
    Carried (.calling (.selfTest .keys (gameLimit none))) [] keyTestCalled ∧
      keyTestCalled.Clocked ∧ keyTestCalled.display.observer.isSome = true ∧
      ∃ notes c, Run (Onlooker.scribe fun _ => 0).around (edgeNotes 0) keyTestCalled notes c ∧
        .beyond ∉ notes ∧ EdgeNote.edges notes = [true, false] ∧
        c.outside.map Prod.snd = ["ceg", "d", "ceg"] := by
  have hcalled : Carried (.calling (.selfTest .keys (gameLimit none))) [] keyTestCalled :=
    calledAlone_carried _ _
  have hclocked : keyTestCalled.Clocked := calledAlone_clocked _ _
  let last := deedsNoted (Onlooker.scribe fun _ => 0).around (edgeNotes 0)
    [.steps 5, .move true, .steps 5, .move false, .steps 5] keyTestCalled
  have hrun : Run (Onlooker.scribe fun _ => 0).around (edgeNotes 0) keyTestCalled last.1 last.2 :=
    Run.start.deedsNoted [.steps 5, .move true, .steps 5, .move false, .steps 5]
  have hnotes : last.1 = [.heard true, .heard false] := by decide +kernel
  have hbeyond : .beyond ∉ last.1 := by
    rw [hnotes]
    decide
  have hsettled : last.2.Settled := by decide +kernel
  have hshows := (key_test_shows_heard_edges hcalled hclocked rfl hrun hbeyond).1
    hsettled
  rw [hnotes] at hshows
  exact ⟨hcalled, hclocked, rfl, last.1, last.2, hrun, hbeyond,
    by rw [hnotes]; rfl, hshows⟩

/-- A press and a release at once: the release is missed, and the digit shows a press from then on
while the key is up. -/
theorem key_test_misses_release_at_once : ∃ edges c,
    Run (Onlooker.scribe fun _ => 0).around edgesOf keyTestCalled edges c ∧
      edges = [true, false] ∧ c.Settled ∧ c.key.pressed = false ∧
      c.outside.map Prod.snd = ["ceg", "d"] ∧ ¬ ShowsEdges [] false edges c := by
  let last := deedsNoted (Onlooker.scribe fun _ => 0).around edgesOf
    [.steps 5, .move true, .move false, .steps 5] keyTestCalled
  have hrun : Run (Onlooker.scribe fun _ => 0).around edgesOf keyTestCalled last.1 last.2 :=
    Run.start.deedsNoted [.steps 5, .move true, .move false, .steps 5]
  have hedges : last.1 = [true, false] := by decide +kernel
  have hsettled : last.2.Settled := by decide +kernel
  have hup : last.2.key.pressed = false := by decide +kernel
  have hshown : last.2.outside.map Prod.snd = ["ceg", "d"] := by decide +kernel
  refine ⟨last.1, last.2, hrun, hedges, hsettled, hup, hshown, fun h => ?_⟩
  rw [ShowsEdges, hshown, hedges] at h
  exact absurd h (by decide)

end Cabinet

end DigitRace
