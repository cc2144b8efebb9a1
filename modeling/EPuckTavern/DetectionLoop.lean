import EPuckTavern.ImageMean
import EPuckTavern.Transition.Run

namespace EPuckTavern.DetectionLoop

open Transition DetectionLine ProcessImage

/-!
# The loops of `detection_line`, step by step

After a line that is too narrow the counter goes back to its end, and a begin
can be looked for at the same pixel again.  It goes back by one pixel only,
and not before the search has found a begin and an end, so that every step of
the function brings it closer to its end.

A step has its own values for what is read outside of the image.
-/

/-- The loops and tests of `detection_line`. -/
inductive Pc where
  /-- The loop that adds up the image. -/
  | addUp
  /-- `wrong_line = 0`, at the head of the do/while loop. -/
  | enter
  | seekBegin
  /-- `counter < (IMAGE_BUFFER_SIZE - WIDTH_SLOPE) && begin`. -/
  | testBegin
  | seekEnd
  /-- `counter > IMAGE_BUFFER_SIZE || !end`. -/
  | testEnd
  /-- `!not_found && (end-begin) < LINE_WIDTH_MIN`. -/
  | testWidth
  /-- `while(wrong_line)`. -/
  | testWrongLine
  | ended
  deriving Repr, DecidableEq

/-- The local variables of `detection_line`. -/
structure Local where
  pc : Pc
  index : UInt32
  mean : UInt16
  lineBegin : UInt16
  lineEnd : UInt16
  counter : UInt16
  wrongLine : Bool
  stop : Bool
  notFound : Bool
  deriving Repr, DecidableEq

/-- The local variables of `detection_line` at its first statement. -/
def entry : Local where
  pc := .addUp
  index := 0
  mean := 0
  lineBegin := 0
  lineEnd := 0
  counter := 0
  wrongLine := false
  stop := false
  notFound := false

/-- `detect_line_color`, behind the do/while loop. -/
def Local.detectLineColor (thread : Local) : Bool :=
  !thread.notFound

/-- One iteration of a loop, or one test. -/
def next (image : Memory) (thread : Local) : Local :=
  match thread.pc with
  | .addUp =>
      if thread.index.toNat < imageBufferSize then
        { thread with
          mean := thread.mean + (image thread.index.toNat).toUInt16
          index := thread.index + 1 }
      else
        { thread with mean := thread.mean / 640, pc := .enter }
  | .enter =>
      { thread with wrongLine := false, pc := .seekBegin }
  | .seekBegin =>
      if thread.stop = false ∧
          thread.counter.toNat < imageBufferSize - widthSlope then
        if falls image thread.mean thread.counter.toNat then
          { thread with
            lineBegin := thread.counter
            stop := true
            counter := thread.counter + 1 }
        else
          { thread with counter := thread.counter + 1 }
      else
        { thread with pc := .testBegin }
  | .testBegin =>
      if thread.counter.toNat < imageBufferSize - widthSlope ∧
          thread.lineBegin ≠ 0 then
        { thread with stop := false, pc := .seekEnd }
      else
        { thread with notFound := true, pc := .testWidth }
  | .seekEnd =>
      if thread.stop = false ∧ thread.counter.toNat < imageBufferSize then
        if rises image thread.mean thread.counter.toNat then
          { thread with
            lineEnd := thread.counter
            stop := true
            counter := thread.counter + 1 }
        else
          { thread with counter := thread.counter + 1 }
      else
        { thread with pc := .testEnd }
  | .testEnd =>
      if thread.counter.toNat > imageBufferSize ∨ thread.lineEnd = 0 then
        { thread with notFound := true, pc := .testWidth }
      else
        { thread with pc := .testWidth }
  | .testWidth =>
      if thread.notFound = false ∧
          (thread.lineEnd.toNat : Int) - thread.lineBegin.toNat <
            lineWidthMin then
        { thread with
          counter := thread.lineEnd
          lineBegin := 0
          lineEnd := 0
          stop := false
          wrongLine := true
          pc := .testWrongLine }
      else
        { thread with pc := .testWrongLine }
  | .testWrongLine =>
      if thread.wrongLine then
        { thread with pc := .enter }
      else
        { thread with pc := .ended }
  | .ended => thread

/-- The function and the begins that its search has found, newest first. -/
structure Logged where
  thread : Local
  begins : List UInt16

namespace Logged

/-- Nothing has been found before the first statement. -/
def entry : Logged where
  thread := DetectionLoop.entry
  begins := []

/-- The step sets `begin = counter`. -/
def FindsBegin (image : Memory) (thread : Local) : Prop :=
  thread.pc = .seekBegin ∧ thread.stop = false ∧
    thread.counter.toNat < imageBufferSize - widthSlope ∧
    falls image thread.mean thread.counter.toNat = true

instance (image : Memory) (thread : Local) :
    Decidable (FindsBegin image thread) :=
  inferInstanceAs (Decidable (_ ∧ _))

/-- A step, with the begin that it may have found. -/
def after (image : Memory) (state : Logged) : Logged where
  thread := next image state.thread
  begins :=
    if FindsBegin image state.thread then
      state.thread.counter :: state.begins
    else
      state.begins

/-- A step, with what it reads outside of the image. -/
def step? (image : Nat → UInt8) : Step Logged Memory
  | state, outside =>
      if state.thread.pc = .ended then
        none
      else
        some (state.after (placed outside image))

end Logged

/-!
## What the variables hold

The begins found so far are all behind the pixel where the function goes on
looking.
-/

/-- No begin has been found in this round. -/
structure Fresh (state : Logged) : Prop where
  noBegin : state.thread.lineBegin = 0
  noEnd : state.thread.lineEnd = 0
  goesOn : state.thread.stop = false
  found : state.thread.notFound = false
  inImage : state.thread.counter.toNat ≤ 640
  behind :
    ∀ earlier ∈ state.begins, earlier.toNat < state.thread.counter.toNat

/-- The last begin found is the one of this round. -/
structure Opened (state : Logged) : Prop where
  found : state.thread.notFound = false
  inImage : state.thread.counter.toNat ≤ 640
  atBegin :
    ∀ earlier ∈ state.begins,
      earlier.toNat ≤ state.thread.lineBegin.toNat

/-- The search for a begin has stopped. -/
structure AtBegin (state : Logged) : Prop extends Opened state where
  noEnd : state.thread.lineEnd = 0
  stopped : state.thread.stop = true
  counter :
    state.thread.counter.toNat = state.thread.lineBegin.toNat + 1

/-- The search for an end goes on. -/
structure Inside (state : Logged) : Prop extends Opened state where
  noEnd : state.thread.lineEnd = 0
  goesOn : state.thread.stop = false
  above : state.thread.lineBegin.toNat < state.thread.counter.toNat

/-- The search for an end has stopped. -/
structure AtEnd (state : Logged) : Prop extends Opened state where
  stopped : state.thread.stop = true
  above : state.thread.lineBegin.toNat < state.thread.lineEnd.toNat
  counter :
    state.thread.counter.toNat = state.thread.lineEnd.toNat + 1

/-- What holds in front of an iteration or a test. -/
def Holds (state : Logged) : Prop :=
  match state.thread.pc with
  | .addUp => state.thread.index.toNat ≤ 640 ∧ Fresh state
  | .enter => Fresh state
  | .seekBegin | .testBegin =>
      state.thread.wrongLine = false ∧ (Fresh state ∨ AtBegin state)
  | .seekEnd | .testEnd =>
      state.thread.wrongLine = false ∧ (Inside state ∨ AtEnd state)
  | .testWidth =>
      state.thread.wrongLine = false ∧
        (state.thread.notFound = true ∨ AtEnd state)
  | .testWrongLine => state.thread.wrongLine = true → Fresh state
  | .ended => True

/-- A bound on the statements that the pixels ahead can cost. -/
def Local.ahead (thread : Local) : Nat :=
  16 * (641 - thread.counter.toNat)

/--
A bound on the steps left.  Sixteen are paid for each pixel; what a restart
takes back has been left over by the two pixels at which the searches stopped.
-/
def Local.remaining (thread : Local) : Nat :=
  match thread.pc with
  | .addUp => thread.ahead + 4 + (640 - thread.index.toNat)
  | .enter => thread.ahead + 3
  | .seekBegin => if thread.stop then thread.ahead + 10 else thread.ahead + 2
  | .testBegin => if thread.stop then thread.ahead + 9 else thread.ahead + 1
  | .seekEnd => if thread.stop then thread.ahead + 23 else thread.ahead + 8
  | .testEnd => if thread.stop then thread.ahead + 22 else thread.ahead + 7
  | .testWidth => if thread.notFound then 2 else thread.ahead + 21
  | .testWrongLine => if thread.wrongLine then thread.ahead + 4 else 1
  | .ended => 0

theorem toNat_add_one
    {counter : UInt16}
    (inImage : counter.toNat < 640) :
    (counter + 1).toNat = counter.toNat + 1 := by
  rw [UInt16.toNat_add]
  exact Nat.mod_eq_of_lt (by change counter.toNat + 1 < 2 ^ 16; omega)

theorem toNat_index_add_one
    {index : UInt32}
    (inside : index.toNat < imageBufferSize) :
    (index + 1).toNat = index.toNat + 1 := by
  simp only [imageBufferSize] at inside
  rw [UInt32.toNat_add]
  exact Nat.mod_eq_of_lt (by change index.toNat + 1 < 2 ^ 32; omega)

/-- A step keeps what holds and brings the end closer. -/
structure Closer (state next : Logged) : Prop where
  holds : Holds next
  fewer : next.thread.remaining < state.thread.remaining

section Steps

variable {image : Memory} {state : Logged}

/-- A step that finds no begin leaves the log as it is. -/
theorem after_eq
    (finds : ¬ Logged.FindsBegin image state.thread) :
    state.after image =
      { state with thread := next image state.thread } := by
  rw [Logged.after, if_neg finds]

/-- Begins are found at one statement only. -/
theorem after_of_pc
    (elsewhere : state.thread.pc ≠ .seekBegin) :
    state.after image =
      { state with thread := next image state.thread } :=
  after_eq fun finds => elsewhere finds.1

/-- The search for a begin tests one more pixel. -/
theorem Fresh.seek
    (fresh : Fresh state)
    (proper : state.thread.wrongLine = false)
    (here : state.thread.pc = .seekBegin)
    (inside : state.thread.counter.toNat < 635) :
    Closer state (state.after image) := by
  have further := toNat_add_one (Nat.lt_trans inside (by decide))
  have searching := fresh.goesOn
  cases fall : falls image state.thread.mean state.thread.counter.toNat with
  | true =>
      have after :
          state.after image = {
            thread := { state.thread with
              lineBegin := state.thread.counter
              stop := true
              counter := state.thread.counter + 1 }
            begins := state.thread.counter :: state.begins } := by
        simp [Logged.after, Logged.FindsBegin, next, here, searching,
          fall, inside, imageBufferSize, widthSlope]
      rw [after]
      constructor
      · simp only [Holds, here]
        refine ⟨proper, .inr ⟨⟨fresh.found, ?_, ?_⟩, fresh.noEnd, rfl,
          further⟩⟩
        · simp only [further]
          omega
        · intro earlier member
          rcases List.mem_cons.mp member with rfl | old
          · exact Nat.le_refl _
          · exact Nat.le_of_lt (fresh.behind earlier old)
      · simp only [Local.remaining, Local.ahead, here, searching, further,
          ↓reduceIte, Bool.false_eq_true]
        omega
  | false =>
      have after :
          state.after image = { state with
            thread := { state.thread with
              counter := state.thread.counter + 1 } } := by
        simp [Logged.after, Logged.FindsBegin, next, here, searching,
          fall, inside, imageBufferSize, widthSlope]
      rw [after]
      constructor
      · simp only [Holds, here]
        refine ⟨proper, .inl { fresh with inImage := ?_, behind := ?_ }⟩
        · simp only [further]
          omega
        · intro earlier member
          simp only [further]
          exact Nat.lt_succ_of_lt (fresh.behind earlier member)
      · simp only [Local.remaining, Local.ahead, here, searching, further,
          ↓reduceIte, Bool.false_eq_true]
        omega

/-- The search for an end tests one more pixel. -/
theorem Inside.seek
    (within : Inside state)
    (proper : state.thread.wrongLine = false)
    (here : state.thread.pc = .seekEnd)
    (inside : state.thread.counter.toNat < 640) :
    Closer state (state.after image) := by
  have further := toNat_add_one inside
  have searching := within.goesOn
  have above := within.above
  cases rise : rises image state.thread.mean state.thread.counter.toNat with
  | true =>
      have after :
          state.after image = { state with
            thread := { state.thread with
              lineEnd := state.thread.counter
              stop := true
              counter := state.thread.counter + 1 } } := by
        simp [Logged.after, Logged.FindsBegin, next, here, searching,
          rise, inside, imageBufferSize]
      rw [after]
      constructor
      · simp only [Holds, here]
        refine ⟨proper, .inr ⟨⟨within.found, ?_, within.atBegin⟩, rfl,
          above, further⟩⟩
        simp only [further]
        omega
      · simp only [Local.remaining, Local.ahead, here, searching, further,
          ↓reduceIte, Bool.false_eq_true]
        omega
  | false =>
      have after :
          state.after image = { state with
            thread := { state.thread with
              counter := state.thread.counter + 1 } } := by
        simp [Logged.after, Logged.FindsBegin, next, here, searching,
          rise, inside, imageBufferSize]
      rw [after]
      constructor
      · simp only [Holds, here]
        refine ⟨proper, .inl { within with inImage := ?_, above := ?_ }⟩ <;>
          simp only [further] <;> omega
      · simp only [Local.remaining, Local.ahead, here, searching, further,
          ↓reduceIte, Bool.false_eq_true]
        omega

/-- Each pixel that is added up brings the end closer. -/
theorem closer_addUp
    (holds : Holds state)
    (here : state.thread.pc = .addUp) :
    Closer state (state.after image) := by
  simp only [Holds, here] at holds
  obtain ⟨within, fresh⟩ := holds
  rw [after_of_pc (by simp [here])]
  by_cases inside : state.thread.index.toNat < imageBufferSize
  · have further := toNat_index_add_one inside
    simp only [next, here, inside, ↓reduceIte]
    constructor
    · simp only [Holds, further]
      exact ⟨inside, { fresh with }⟩
    · simp only [Local.remaining, Local.ahead, here, further]
      simp only [imageBufferSize] at inside
      omega
  · simp only [next, here, inside, ↓reduceIte]
    constructor
    · exact { fresh with }
    · simp only [Local.remaining, Local.ahead, here]
      omega

theorem closer_enter
    (holds : Holds state)
    (here : state.thread.pc = .enter) :
    Closer state (state.after image) := by
  simp only [Holds, here] at holds
  rw [after_of_pc (by simp [here])]
  simp only [next, here]
  constructor
  · exact ⟨rfl, .inl { holds with }⟩
  · simp only [Local.remaining, Local.ahead, here, holds.goesOn,
      Bool.false_eq_true, ↓reduceIte]
    omega

theorem closer_seekBegin
    (holds : Holds state)
    (here : state.thread.pc = .seekBegin) :
    Closer state (state.after image) := by
  have found := holds
  simp only [Holds, here] at found
  obtain ⟨proper, stage⟩ := found
  by_cases goesOn :
      state.thread.stop = false ∧
        state.thread.counter.toNat < imageBufferSize - widthSlope
  · rcases stage with fresh | atBegin
    · exact fresh.seek proper here goesOn.2
    · exact absurd (atBegin.stopped.symm.trans goesOn.1) (by decide)
  · rw [after_eq fun finds => goesOn ⟨finds.2.1, finds.2.2.1⟩]
    simp only [next, here, goesOn, ↓reduceIte]
    constructor
    · exact ⟨proper, stage.imp (fun fresh => { fresh with })
        fun atBegin => { atBegin with }⟩
    · simp only [Local.remaining, Local.ahead, here]
      split <;> omega

theorem closer_testBegin
    (holds : Holds state)
    (here : state.thread.pc = .testBegin) :
    Closer state (state.after image) := by
  simp only [Holds, here] at holds
  obtain ⟨proper, stage⟩ := holds
  rw [after_of_pc (by simp [here])]
  by_cases opens :
      state.thread.counter.toNat < imageBufferSize - widthSlope ∧
        state.thread.lineBegin ≠ 0
  · simp only [next, here, if_pos opens]
    rcases stage with fresh | atBegin
    · exact (opens.2 fresh.noBegin).elim
    · constructor
      · refine ⟨proper, .inl { atBegin with goesOn := rfl, above := ?_ }⟩
        simp only [atBegin.counter, Nat.lt_succ_self]
      · simp only [Local.remaining, Local.ahead, here, atBegin.stopped,
          Bool.false_eq_true, ↓reduceIte]
        omega
  · simp only [next, here, opens, ↓reduceIte]
    have inImage : state.thread.counter.toNat ≤ 640 :=
      stage.elim Fresh.inImage fun atBegin => atBegin.inImage
    constructor
    · exact ⟨proper, .inl rfl⟩
    · simp only [Local.remaining, Local.ahead, here, ↓reduceIte]
      split <;> omega

theorem closer_seekEnd
    (holds : Holds state)
    (here : state.thread.pc = .seekEnd) :
    Closer state (state.after image) := by
  simp only [Holds, here] at holds
  obtain ⟨proper, stage⟩ := holds
  by_cases goesOn :
      state.thread.stop = false ∧
        state.thread.counter.toNat < imageBufferSize
  · rcases stage with within | atEnd
    · exact within.seek proper here goesOn.2
    · exact absurd (atEnd.stopped.symm.trans goesOn.1) (by decide)
  · rw [after_of_pc (by simp [here])]
    simp only [next, here, goesOn, ↓reduceIte]
    constructor
    · exact ⟨proper, stage.imp (fun within => { within with })
        fun atEnd => { atEnd with }⟩
    · simp only [Local.remaining, Local.ahead, here]
      split <;> omega

theorem closer_testEnd
    (holds : Holds state)
    (here : state.thread.pc = .testEnd) :
    Closer state (state.after image) := by
  simp only [Holds, here] at holds
  obtain ⟨proper, stage⟩ := holds
  rw [after_of_pc (by simp [here])]
  by_cases missing :
      state.thread.counter.toNat > imageBufferSize ∨
        state.thread.lineEnd = 0
  · simp only [next, here, missing, ↓reduceIte]
    constructor
    · exact ⟨proper, .inl rfl⟩
    · simp only [Local.remaining, Local.ahead, here, ↓reduceIte]
      split <;> omega
  · simp only [next, here, missing, ↓reduceIte]
    rcases stage with within | atEnd
    · exact (missing (.inr within.noEnd)).elim
    · constructor
      · exact ⟨proper, .inr { atEnd with }⟩
      · simp only [Local.remaining, Local.ahead, here, atEnd.stopped,
          atEnd.found, Bool.false_eq_true, ↓reduceIte]
        omega

/-- A restart takes back one pixel of the two or more that led to it. -/
theorem closer_testWidth
    (holds : Holds state)
    (here : state.thread.pc = .testWidth) :
    Closer state (state.after image) := by
  simp only [Holds, here] at holds
  obtain ⟨proper, stage⟩ := holds
  rw [after_of_pc (by simp [here])]
  by_cases narrow :
      state.thread.notFound = false ∧
        (state.thread.lineEnd.toNat : Int) - state.thread.lineBegin.toNat <
          lineWidthMin
  · simp only [next, here, if_pos narrow]
    rcases stage with missing | atEnd
    · exact absurd (missing.symm.trans narrow.1) (by decide)
    · have counter := atEnd.counter
      have inImage := atEnd.inImage
      constructor
      · refine fun _ => ⟨rfl, rfl, rfl, atEnd.found, ?_, ?_⟩
        · simp only
          omega
        · exact fun earlier member =>
            Nat.lt_of_le_of_lt (atEnd.atBegin earlier member) atEnd.above
      · simp only [Local.remaining, Local.ahead, here, narrow.1,
          Bool.false_eq_true, ↓reduceIte]
        omega
  · simp only [next, here, narrow, ↓reduceIte]
    constructor
    · exact fun wrong => absurd (proper.symm.trans wrong) (by decide)
    · simp only [Local.remaining, Local.ahead, here, proper,
        Bool.false_eq_true, ↓reduceIte]
      split <;> omega

theorem closer_testWrongLine
    (holds : Holds state)
    (here : state.thread.pc = .testWrongLine) :
    Closer state (state.after image) := by
  simp only [Holds, here] at holds
  rw [after_of_pc (by simp [here])]
  by_cases wrong : state.thread.wrongLine = true
  · simp only [next, here, wrong, ↓reduceIte]
    constructor
    · exact { holds wrong with }
    · simp only [Local.remaining, Local.ahead, here, wrong, ↓reduceIte]
      omega
  · simp only [next, here, if_neg wrong]
    constructor
    · trivial
    · simp only [Local.remaining, here, if_neg wrong]
      omega

/-- Step lemma: every iteration and every test brings the end closer. -/
theorem closer_after
    (image : Memory)
    (holds : Holds state)
    (runs : state.thread.pc ≠ .ended) :
    Closer state (state.after image) := by
  cases here : state.thread.pc with
  | addUp => exact closer_addUp holds here
  | enter => exact closer_enter holds here
  | seekBegin => exact closer_seekBegin holds here
  | testBegin => exact closer_testBegin holds here
  | seekEnd => exact closer_seekEnd holds here
  | testEnd => exact closer_testEnd holds here
  | testWidth => exact closer_testWidth holds here
  | testWrongLine => exact closer_testWrongLine holds here
  | ended => exact (runs here).elim

end Steps

/-- Each begin is behind the one before it. -/
def Ascending (state : Logged) : Prop :=
  state.begins.Pairwise (· > ·)

/-- Step lemma: a begin that is found is behind those found earlier. -/
theorem Ascending.after
    {image : Memory}
    {state : Logged}
    (ascending : Ascending state)
    (holds : Holds state) :
    Ascending (state.after image) := by
  by_cases finds : Logged.FindsBegin image state.thread
  · rw [Ascending, Logged.after, if_pos finds]
    refine ascending.cons fun earlier member => ?_
    simp only [Holds, finds.1] at holds
    rcases holds.2 with fresh | atBegin
    · exact UInt16.lt_iff_toNat_lt.mpr (fresh.behind earlier member)
    · exact absurd (atBegin.stopped.symm.trans finds.2.1) (by decide)
  · rw [after_eq finds]
    exact ascending

theorem holds_entry : Holds Logged.entry :=
  ⟨Nat.zero_le _, rfl, rfl, rfl, rfl, Nat.zero_le _,
    fun _ member => (List.not_mem_nil member).elim⟩

/--
For every image, whatever is read outside of it at any step: `detection_line`
ends, and each begin that it finds is behind the one before.
-/
theorem detectionLine_ends
    (image : Nat → UInt8)
    (outside : Nat → Memory) :
    ∃ count final,
      count ≤ 10900 ∧
        run? (Logged.step? image) Logged.entry
            ((List.range count).map outside) =
          some final ∧
        final.thread.pc = .ended ∧
        Ascending final := by
  have initially : Holds Logged.entry ∧ Ascending Logged.entry :=
    ⟨holds_entry, .nil⟩
  have goesOn :
      ∀ {state : Logged} (reads : Memory),
        Holds state ∧ Ascending state →
        ¬ state.thread.pc = .ended →
        ∃ next,
          Logged.step? image state reads = some next ∧
            (Holds next ∧ Ascending next) ∧
            next.thread.remaining < state.thread.remaining := by
    rintro state reads ⟨holds, ascending⟩ runs
    have closer := closer_after (placed reads image) holds runs
    exact ⟨_, if_neg runs, ⟨closer.holds, ascending.after holds⟩,
      closer.fewer⟩
  obtain ⟨count, final, within, ran, ended, -, ascending⟩ :=
    run?_ends goesOn initially outside
  exact ⟨count, final, within, ran, ended, ascending⟩

section Result

/-!
## The steps and the rounds

Where the bytes outside of the image do not change while the function runs, it
returns what `detectionLine` says.
-/

variable {image : Memory} {result : Bool} {state : Logged}

/-- How a round ends behind its search for an end. -/
def closed (lineBegin lineEnd counter : Nat) : Round :=
  if counter > imageBufferSize || lineEnd = 0 then
    .notFound
  else if (lineEnd : Int) - lineBegin < lineWidthMin then
    .wrongLine lineEnd
  else
    .found

/-- How a round ends that searches for an end from `counter` on. -/
def sought
    (image : Memory)
    (mean : UInt16)
    (lineBegin counter : Nat) : Round :=
  let (found, counter) :=
    search (rises image mean) (imageBufferSize - counter) counter
  closed lineBegin (found.getD 0) counter

/-- How a round ends behind its search for a begin. -/
def entered
    (image : Memory)
    (mean : UInt16)
    (lineBegin counter : Nat) : Round :=
  if counter < imageBufferSize - widthSlope && lineBegin ≠ 0 then
    sought image mean lineBegin counter
  else
    .notFound

theorem search_met
    {test : Nat → Bool}
    {size counter : Nat}
    (inside : counter < size)
    (met : test counter = true) :
    search test (size - counter) counter = (some counter, counter + 1) := by
  rw [show size - counter = size - (counter + 1) + 1 by omega]
  exact if_pos met

theorem search_missed
    {test : Nat → Bool}
    {size counter : Nat}
    (inside : counter < size)
    (missed : test counter = false) :
    search test (size - counter) counter =
      search test (size - (counter + 1)) (counter + 1) := by
  rw [show size - counter = size - (counter + 1) + 1 by omega]
  exact if_neg (by simp [missed])

theorem search_past
    {test : Nat → Bool}
    {size counter : Nat}
    (beyond : ¬ counter < size) :
    search test (size - counter) counter = (none, counter) := by
  rw [Nat.sub_eq_zero_of_le (Nat.le_of_not_lt beyond)]
  rfl

section Rounds

variable {mean : UInt16} {lineBegin counter : Nat}

/-- A round that meets a fall goes on behind it. -/
theorem round_falls
    (inside : counter < imageBufferSize - widthSlope)
    (fall : falls image mean counter = true) :
    round image mean counter = entered image mean counter (counter + 1) := by
  simp only [DetectionLine.round, search_met inside fall]
  rfl

theorem round_goesOn
    (inside : counter < imageBufferSize - widthSlope)
    (level : falls image mean counter = false) :
    round image mean counter = round image mean (counter + 1) := by
  simp only [DetectionLine.round, search_missed inside level]

theorem round_past
    (beyond : ¬ counter < imageBufferSize - widthSlope) :
    round image mean counter = entered image mean 0 counter := by
  simp only [DetectionLine.round, search_past beyond]
  rfl

theorem sought_rises
    (inside : counter < imageBufferSize)
    (rise : rises image mean counter = true) :
    sought image mean lineBegin counter =
      closed lineBegin counter (counter + 1) := by
  simp only [sought, search_met inside rise, Option.getD_some]

theorem sought_goesOn
    (inside : counter < imageBufferSize)
    (level : rises image mean counter = false) :
    sought image mean lineBegin counter =
      sought image mean lineBegin (counter + 1) := by
  simp only [sought, search_missed inside level]

theorem sought_past
    (beyond : ¬ counter < imageBufferSize) :
    sought image mean lineBegin counter = closed lineBegin 0 counter := by
  simp only [sought, search_past beyond, Option.getD_none]

end Rounds

/-- The rounds from this one on have a result. -/
def Gives (image : Memory) (mean : UInt16) (result : Bool) : Round → Prop
  | .found => result = true
  | .notFound => result = false
  | .wrongLine next => ∃ fuel, rounds? image mean fuel next = some result

/-- What all the rounds give is what the first one leads to. -/
theorem gives_round
    {mean : UInt16}
    {fuel counter : Nat}
    (ran : rounds? image mean fuel counter = some result) :
    Gives image mean result (round image mean counter) := by
  cases fuel with
  | zero => cases ran
  | succ fuel =>
      simp only [rounds?] at ran
      split at ran
      · rename_i ends
        rw [ends]
        exact (Option.some.inj ran).symm
      · rename_i ends
        rw [ends]
        exact (Option.some.inj ran).symm
      · rename_i ends
        rw [ends]
        exact ⟨fuel, ran⟩

/-- What the function will return, from an iteration or a test on. -/
def WillReturn (image : Memory) (result : Bool) (thread : Local) : Prop :=
  match thread.pc with
  | .addUp =>
      thread.mean = imageSumTo image thread.index.toNat ∧
        Gives image (imageMean image) result
          (round image (imageMean image) thread.counter.toNat)
  | .enter =>
      Gives image thread.mean result
        (round image thread.mean thread.counter.toNat)
  | .seekBegin =>
      Gives image thread.mean result
        (if thread.stop then
          entered image thread.mean thread.lineBegin.toNat
            thread.counter.toNat
        else
          round image thread.mean thread.counter.toNat)
  | .testBegin =>
      Gives image thread.mean result
        (entered image thread.mean thread.lineBegin.toNat
          thread.counter.toNat)
  | .seekEnd =>
      Gives image thread.mean result
        (if thread.stop then
          closed thread.lineBegin.toNat thread.lineEnd.toNat
            thread.counter.toNat
        else
          sought image thread.mean thread.lineBegin.toNat
            thread.counter.toNat)
  | .testEnd =>
      Gives image thread.mean result
        (closed thread.lineBegin.toNat thread.lineEnd.toNat
          thread.counter.toNat)
  | .testWidth =>
      Gives image thread.mean result
        (if thread.notFound then
          .notFound
        else if (thread.lineEnd.toNat : Int) - thread.lineBegin.toNat <
            lineWidthMin then
          .wrongLine thread.lineEnd.toNat
        else
          .found)
  | .testWrongLine =>
      if thread.wrongLine then
        Gives image thread.mean result
          (round image thread.mean thread.counter.toNat)
      else
        thread.detectLineColor = result
  | .ended => thread.detectLineColor = result

/-- The statement of the search for a begin keeps what will be returned. -/
theorem willReturn_seekBegin
    (returns : WillReturn image result state.thread)
    (holds : Holds state)
    (here : state.thread.pc = .seekBegin) :
    WillReturn image result (next image state.thread) := by
  simp only [Holds, here] at holds
  simp only [WillReturn, here] at returns
  obtain ⟨proper, fresh | atBegin⟩ := holds
  · simp only [fresh.goesOn, Bool.false_eq_true, ↓reduceIte] at returns
    by_cases inside :
        state.thread.counter.toNat < imageBufferSize - widthSlope
    · have inImage : state.thread.counter.toNat < 640 :=
        Nat.lt_trans inside (by decide)
      cases fall :
          falls image state.thread.mean state.thread.counter.toNat with
      | true =>
          rw [round_falls inside fall] at returns
          simp [next, here, fresh.goesOn, inside, fall, WillReturn,
            toNat_add_one inImage, returns]
      | false =>
          rw [round_goesOn inside fall] at returns
          simp [next, here, fresh.goesOn, inside, fall, WillReturn,
            toNat_add_one inImage, returns]
    · rw [round_past inside] at returns
      simp [next, here, inside, WillReturn, fresh.noBegin, returns]
  · simp only [atBegin.stopped, ↓reduceIte] at returns
    simp [next, here, atBegin.stopped, WillReturn, returns]

theorem willReturn_seekEnd
    (returns : WillReturn image result state.thread)
    (holds : Holds state)
    (here : state.thread.pc = .seekEnd) :
    WillReturn image result (next image state.thread) := by
  simp only [Holds, here] at holds
  simp only [WillReturn, here] at returns
  obtain ⟨proper, within | atEnd⟩ := holds
  · simp only [within.goesOn, Bool.false_eq_true, ↓reduceIte] at returns
    by_cases inside : state.thread.counter.toNat < imageBufferSize
    · cases rise :
          rises image state.thread.mean state.thread.counter.toNat with
      | true =>
          rw [sought_rises inside rise] at returns
          simp [next, here, within.goesOn, inside, rise, WillReturn,
            toNat_add_one inside, returns]
      | false =>
          rw [sought_goesOn inside rise] at returns
          simp [next, here, within.goesOn, inside, rise, WillReturn,
            toNat_add_one inside, returns]
    · rw [sought_past inside] at returns
      simp [next, here, inside, WillReturn, within.noEnd, returns]
  · simp only [atEnd.stopped, ↓reduceIte] at returns
    simp [next, here, atEnd.stopped, WillReturn, returns]

theorem willReturn_addUp
    (returns : WillReturn image result state.thread)
    (holds : Holds state)
    (here : state.thread.pc = .addUp) :
    WillReturn image result (next image state.thread) := by
  simp only [Holds, here] at holds
  simp only [WillReturn, here] at returns
  obtain ⟨sum, returns⟩ := returns
  by_cases inside : state.thread.index.toNat < imageBufferSize
  · have further := toNat_index_add_one inside
    have added :
        imageSumTo image (state.thread.index.toNat + 1) =
          state.thread.mean +
            (image state.thread.index.toNat).toUInt16 := by
      rw [sum, imageSumTo, imageSumTo, List.range_succ, List.foldl_append]
      rfl
    simp [next, here, inside, WillReturn, further, added, returns]
  · have whole : state.thread.index.toNat = imageBufferSize :=
      Nat.le_antisymm holds.1 (Nat.le_of_not_lt inside)
    have mean : state.thread.mean / 640 = imageMean image := by
      rw [sum, whole, ← imageSum_eq_imageSumTo]
      rfl
    simp [next, here, inside, WillReturn, mean, returns]

theorem toNat_eq_zero_iff
    {value : UInt16} :
    value.toNat = 0 ↔ value = 0 :=
  @UInt16.toNat_inj value 0

theorem willReturn_testBegin
    (returns : WillReturn image result state.thread)
    (here : state.thread.pc = .testBegin) :
    WillReturn image result (next image state.thread) := by
  simp only [WillReturn, here, entered, Bool.and_eq_true,
    decide_eq_true_eq, ne_eq, toNat_eq_zero_iff] at returns
  by_cases opens :
      state.thread.counter.toNat < imageBufferSize - widthSlope ∧
        state.thread.lineBegin ≠ 0
  · rw [if_pos opens] at returns
    simp only [next, here, if_pos opens]
    exact returns
  · rw [if_neg opens] at returns
    simp only [next, here, if_neg opens]
    exact returns

theorem willReturn_testEnd
    (returns : WillReturn image result state.thread)
    (holds : Holds state)
    (here : state.thread.pc = .testEnd) :
    WillReturn image result (next image state.thread) := by
  simp only [Holds, here] at holds
  simp only [WillReturn, here, closed, Bool.or_eq_true,
    decide_eq_true_eq, toNat_eq_zero_iff] at returns
  by_cases missing :
      state.thread.counter.toNat > imageBufferSize ∨
        state.thread.lineEnd = 0
  · rw [if_pos missing] at returns
    simp only [next, here, if_pos missing]
    exact returns
  · have found : state.thread.notFound = false :=
      holds.2.elim (fun within => within.found) fun atEnd => atEnd.found
    rw [if_neg missing] at returns
    simp only [next, here, if_neg missing, WillReturn, found,
      Bool.false_eq_true, ↓reduceIte]
    exact returns

theorem willReturn_testWidth
    (returns : WillReturn image result state.thread)
    (holds : Holds state)
    (here : state.thread.pc = .testWidth) :
    WillReturn image result (next image state.thread) := by
  simp only [Holds, here] at holds
  simp only [WillReturn, here] at returns
  have proper := holds.1
  cases missing : state.thread.notFound with
  | true =>
      rw [if_pos missing] at returns
      obtain rfl : result = false := returns
      simp [next, here, missing, WillReturn, proper,
        Local.detectLineColor]
  | false =>
      rw [if_neg (by simp [missing])] at returns
      split at returns
      · rename_i narrow
        obtain ⟨fuel, ran⟩ := returns
        simp [next, here, missing, narrow, WillReturn, gives_round ran]
      · rename_i wide
        obtain rfl : result = true := returns
        simp [next, here, missing, wide, WillReturn, proper,
          Local.detectLineColor]

/-- Step lemma: with the same reads throughout, the result stays the same. -/
theorem willReturn_next
    (returns : WillReturn image result state.thread)
    (holds : Holds state) :
    WillReturn image result (next image state.thread) := by
  cases here : state.thread.pc with
  | addUp => exact willReturn_addUp returns holds here
  | seekBegin => exact willReturn_seekBegin returns holds here
  | seekEnd => exact willReturn_seekEnd returns holds here
  | testBegin => exact willReturn_testBegin returns here
  | testEnd => exact willReturn_testEnd returns holds here
  | testWidth => exact willReturn_testWidth returns holds here
  | enter =>
      simp only [Holds, here] at holds
      simp only [WillReturn, here] at returns
      simp [next, here, WillReturn, holds.goesOn, returns]
  | testWrongLine =>
      simp only [WillReturn, here] at returns
      by_cases wrong : state.thread.wrongLine = true
      · rw [if_pos wrong] at returns
        simp [next, here, wrong, WillReturn, returns]
      · rw [if_neg wrong] at returns
        simp only [next, here, if_neg wrong]
        exact returns
  | ended =>
      rw [next, here]
      exact returns

/--
A run in which the surroundings of the image stay the same ends with the
result of `detectionLine`.
-/
theorem detectLineColor_eq
    {pixels : Nat → UInt8}
    {outside : Memory}
    {count : Nat}
    {final : Logged}
    (ran :
      run? (Logged.step? pixels) Logged.entry
          (List.replicate count outside) =
        some final)
    (ended : final.thread.pc = .ended) :
    final.thread.detectLineColor =
      detectionLine (placed outside pixels) := by
  have starts :
      WillReturn (placed outside pixels)
        (detectionLine (placed outside pixels)) Logged.entry.thread :=
    ⟨rfl, gives_round
      (Option.some_get
        (rounds?_start_isSome (placed outside pixels))).symm⟩
  have kept :
      ∀ {state : Logged} {reads : Memory} {next : Logged},
        Holds state ∧
          WillReturn (placed outside pixels)
            (detectionLine (placed outside pixels)) state.thread →
        reads = outside →
        Logged.step? pixels state reads = some next →
        Holds next ∧
          WillReturn (placed outside pixels)
            (detectionLine (placed outside pixels)) next.thread := by
    rintro state reads next ⟨holds, returns⟩ rfl taken
    obtain ⟨runs, moved⟩ := Option.ite_none_left_eq_some.mp taken
    obtain rfl := Option.some.inj moved
    exact ⟨(closer_after _ holds runs).holds,
      willReturn_next returns holds⟩
  have same :
      Along (Logged.step? pixels) (fun _ reads => reads = outside)
        Logged.entry (List.replicate count outside) :=
    along_of_forall_mem
      (fun reads member _ _ _ => List.eq_of_mem_replicate member) _
  have returns :=
    (run?_invariant_along kept ⟨holds_entry, starts⟩ same ran).2
  rw [WillReturn, ended] at returns
  exact returns

end Result

end EPuckTavern.DetectionLoop
