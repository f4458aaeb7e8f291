import SpindleDrive.Proofs.Workshop.Progress
import SpindleDrive.Spindle.Selection

/-!
# The account of a spindle

What a spindle holds of commands and speeds is written by a few kinds of events, at different points
of the calls that bring them about.  The account of a spindle is the list of these events, and each
of its values is that of the latest event which writes it.  It is drawn up from the notes of a
workshop alone; what the spindle holds has no part in it.

* `Entry`, `Account` — the events, the latest first.
* `Account.isSelected`, `command`, `speed`, `low`, `high`, `verdict` — what an account comes to.
* **`SpindleContext.Agrees`** — a spindle holds what an account comes to.
* `Agrees.bound` and its like — one lemma for each way in which a spindle changes.
* `Workshop.completes`, `dueSpeed` — whether a speed is programmed when an exchange is over, and
  which.
* **`Spindle.account`** — the account that notes give.
* `Spindle.Told` — whenever a request was handed over, the spindle agreed with its account.

A speed is programmed under the tolerance that is held when its exchange is over.  The notes do not
tell which that was, so it is given apart, for each exchange of the spindle, the latest first.
-/

namespace SpindleDrive

/-- **What is entered in the account of a spindle.** -/
inductive Entry where
  /-- The spindle is selected. -/
  | bound
  /-- Another spindle is selected. -/
  | released
  /-- A command is taken. -/
  | commanded (state : SpindleState)
  /-- A speed is programmed, under a tolerance. -/
  | programmed (rpm tolerance : Binary32)
  /-- The check of speeds is turned on or off. -/
  | checked (on : Bool)
  /-- The speed is read. -/
  | measured (rpm : Binary32)

/-- The entries for a spindle, the latest first. -/
abbrev Account := List Entry

namespace Account

/-- Whether the spindle was the latest to be selected. -/
def isSelected : Account → Bool
  | [] => false
  | .bound :: _ => true
  | .released :: _ => false
  | _ :: older => isSelected older

/-- The latest command that was taken, and to stand still if there is none. -/
def command : Account → SpindleState
  | [] => .off
  | .commanded state :: _ => state
  | _ :: older => command older

/-- The programmed speed: the latest, unless the spindle has been selected or turned round since. -/
def speed : Account → Binary32
  | [] => .zero
  | .bound :: _ => noSpeed
  | .commanded state :: older => if (command older).ccw = state.ccw then speed older else noSpeed
  | .programmed rpm _ :: _ => rpm
  | _ :: older => speed older

/-- The lower end of the band of the speed that was programmed last. -/
def low : Account → Binary32
  | [] => .zero
  | .programmed rpm tolerance :: _ => rpm * (SpeedData.one - tolerance / SpeedData.hundred)
  | _ :: older => low older

/-- The upper end. -/
def high : Account → Binary32
  | [] => .zero
  | .programmed rpm tolerance :: _ => rpm * (SpeedData.one + tolerance / SpeedData.hundred)
  | _ :: older => high older

/-- Whether speeds are checked. -/
def isChecked : Account → Bool
  | [] => false
  | .checked on :: _ => on
  | _ :: older => isChecked older

/-- The latest reading. -/
def measured : Account → Binary32
  | [] => .zero
  | .measured rpm :: _ => rpm
  | _ :: older => measured older

/-- The verdict on the latest reading, by the band and the check of that time, if no speed has been
programmed since. -/
def verdict : Account → Bool
  | [] => false
  | .programmed .. :: _ => false
  | .measured rpm :: older =>
    !isChecked older || (Binary32.le (low older) rpm && Binary32.le rpm (high older))
  | _ :: older => verdict older

end Account

namespace SpindleContext

/-- **A spindle agrees with its account.** -/
structure Agrees (c : SpindleContext) (account : Account) : Prop where
  selected : c.isSelected = account.isSelected
  on : c.state.on = account.command.on
  ccw : c.state.ccw = account.command.ccw
  commandedOn : c.data.commanded.on = account.command.on
  commandedCcw : c.data.commanded.ccw = account.command.ccw
  speed : c.data.programmed = account.speed
  low : c.data.low = account.low
  high : c.data.high = account.high
  checked : c.data.checked = account.isChecked
  measured : c.data.measured = account.measured
  verdict : c.data.commanded.atSpeed = account.verdict

namespace Agrees

variable {c c' : SpindleContext} {account : Account}

/-- Only the selection, the state and the speeds have a part in it. -/
lemma congr (h : c.Agrees account) (selection : c'.selection = c.selection)
    (on : c'.state.on = c.state.on) (ccw : c'.state.ccw = c.state.ccw) (data : c'.data = c.data) :
    c'.Agrees account where
  selected := by
    rw [isSelected, selection]
    exact h.selected
  on := on.trans h.on
  ccw := ccw.trans h.ccw
  commandedOn := by rw [data, h.commandedOn]
  commandedCcw := by rw [data, h.commandedCcw]
  speed := by rw [data, h.speed]
  low := by rw [data, h.low]
  high := by rw [data, h.high]
  checked := by rw [data, h.checked]
  measured := by rw [data, h.measured]
  verdict := by rw [data, h.verdict]

lemma book (h : c.Agrees account) (hr : c.Resembles c') : c'.Agrees account :=
  h.congr hr.selection hr.on hr.ccw hr.data

lemma bound (h : c.Agrees account) (selection : Selection) (address : UInt8) :
    Agrees
      { c with selection := some selection, data := { c.data with programmed := noSpeed }, address }
      (.bound :: account) :=
  { h with selected := rfl, speed := rfl }

lemma released (h : c.Agrees account) :
    Agrees { c with selection := none } (.released :: account) :=
  { h with selected := rfl }

/-- A command is entered at once. -/
lemma commanded (h : c.Agrees account) (state : SpindleState) :
    (c.takeCommand state).Agrees (.commanded state :: account) where
  selected := h.selected
  on := rfl
  ccw := rfl
  commandedOn := rfl
  commandedCcw := rfl
  speed := by
    show (if c.state.ccw = state.ccw then c.data.programmed else noSpeed) = _
    rw [h.ccw, h.speed]
    rfl
  low := h.low
  high := h.high
  checked := h.checked
  measured := h.measured
  verdict := h.verdict

lemma programmed (h : c.Agrees account) (rpm tolerance : Binary32) (progress : OperationState) :
    (c.endSpeed rpm tolerance progress).Agrees (.programmed rpm tolerance :: account) :=
  { h with speed := rfl, low := rfl, high := rfl, verdict := rfl }

/-- Turning the check of speeds on or off leaves the latest verdict. -/
lemma setChecked (h : c.Agrees account) (on : Bool) :
    Agrees { c with data := { c.data with checked := on } } (.checked on :: account) :=
  { h with checked := rfl }

/-- A reading is judged by the band that the account gives. -/
lemma measure (h : c.Agrees account) (rpm : Binary32) :
    Agrees { c with data := c.data.measure rpm } (.measured rpm :: account) :=
  { h with
    measured := rfl
    verdict := by
      show c.data.accepts rpm = _
      rw [SpeedData.accepts, h.checked, h.low, h.high]
      rfl }

end Agrees

end SpindleContext

/-- What a reply enters in the account of a spindle that reads it: a reading its speed, and
everything else nothing. -/
def Spindle.readBy? (s : Spindle) (reply : Reply) : Option Entry :=
  reply.reading?.map fun code => .measured (s.reader.scale.toSpeed code)

/-- **Reading a reply keeps the account right.** -/
lemma SpindleContext.Agrees.takeIn {c : SpindleContext} {account : Account} (h : c.Agrees account)
    (s : Spindle) (reply : Reply) (rest : List Reply) (coldStart : Bool) :
    (s.takeIn reply rest coldStart c).Agrees ((s.readBy? reply).toList ++ account) := by
  have hdata : (s.takeIn reply rest coldStart c).data =
      (s.reader.read reply coldStart c.data c.exceptions).2.1 := rfl
  rw [s.reader.read_data_eq] at hdata
  rw [Spindle.readBy?]
  cases hreading : reply.reading? with
  | none =>
      rw [hreading] at hdata
      exact h.congr rfl rfl rfl hdata
  | some code =>
      rw [hreading] at hdata
      exact (h.measure (s.reader.scale.toSpeed code)).congr rfl rfl rfl hdata

/-- A spindle that has just been made agrees with an account that is empty. -/
lemma Spindle.agrees_make {id : SpindleId} {config : Config} {s : Spindle} {c : SpindleContext}
    (h : make id config = .ok (s, c)) : c.Agrees [] := by
  rcases make_eq_ok h with ⟨-, -, rfl⟩
  exact ⟨rfl, rfl, rfl, rfl, rfl, rfl, rfl, rfl, rfl, rfl, rfl⟩

/-! ## What notes tell -/

variable {ι : Type} [DecidableEq ι]

/-- The speed that a call asks for. -/
def HostCall.speed? : HostCall → Option Binary32
  | setState _ rpm => some rpm
  | setSpeed rpm _ => some rpm
  | _ => none

/-- The speed that the host asks a spindle for, if a call is noted that asks for one. -/
def Note.asked? (i : ι) : Note ι → Option Binary32
  | called j call => if j = i then call.speed? else none
  | _ => none

omit [DecidableEq ι] in
/-- What is touched by no note that is no traffic is not touched by any number of them. -/
lemma Note.append_eq_of_cons_eq {α : Type} {f : List (Note ι) → α} {newer older : List (Note ι)}
    (hcons : ∀ n older, n.isTraffic = false → f (n :: older) = f older)
    (hnewer : ∀ n ∈ newer, n.isTraffic = false) : f (newer ++ older) = f older := by
  induction newer with
  | nil => rfl
  | cons n newer ih =>
      rw [List.cons_append, hcons n _ (hnewer n (by simp))]
      exact ih fun m hm => hnewer m (by simp [hm])

/-- Whether a note is of an exchange of a spindle that is over. -/
def Note.isExchangeOf (i : ι) : Note ι → Bool
  | exchanged j .. => j = i
  | _ => false

namespace Workshop

/-- The notes before the latest request was handed over. -/
def beforeSending : List (Note ι) → List (Note ι)
  | [] => []
  | .sending .. :: older => older
  | _ :: older => beforeSending older

/-- Whether a spindle has just read a reply. -/
def justRead (i : ι) : List (Note ι) → Bool
  | .read j .. :: _ => j = i
  | _ => false

/-- The speed that the host has asked a spindle for last. -/
def askedSpeed (i : ι) (notes : List (Note ι)) : Binary32 :=
  (notes.findSome? (Note.asked? i)).getD .zero

/-- **The speed that a request is for** which a spindle hands over next: the one that the host has
asked for, or, if a reply makes the spindle send again without waiting, the one that was programmed,
and zero where none holds. -/
def dueSpeed (i : ι) (mode : SendMode) (older : List (Note ι)) (account : Account) : Binary32 :=
  if mode = .nonBlocking && justRead i older then account.speed.clampBelow else askedSpeed i older

lemma dueSpeed_congr {i : ι} {mode : SendMode} {older : List (Note ι)} {account account' : Account}
    (h : account'.speed = account.speed) :
    dueSpeed i mode older account' = dueSpeed i mode older account := by
  rw [dueSpeed, dueSpeed, h]

/-- **Whether an exchange is the last for its request**: it was made without waiting, it succeeded,
or it was the last of all attempts. -/
def completes (s : Spindle) (i : ι) (request : Request) (mode : SendMode) (result : Exchange)
    (older : List (Note ι)) : Bool :=
  !mode.isFailedAttempt result || failures i request.kind older + 1 = s.retries

end Workshop

namespace Spindle

/-- What a call enters in the account of the spindle that is called.  A command is refused unless
the spindle is selected. -/
def enteredBy? (s : Spindle) (account : Account) : HostCall → Option Entry
  | .bind selection => some (if selection.id = s.id then .bound else .released)
  | .applySettings settings changed =>
    if changed.spindle then some (.checked settings.tolerance.isNonneg) else none
  | .setState state _ => if account.isSelected then some (.commanded state) else none
  | .setSpeed .. | .getState | .getData | .requestMaxSpeed | .deliver _ => none

/-- What a note enters in the account of a spindle, given the tolerance that is held, and the notes
and the account before. -/
def entered? (s : Spindle) (i : ι) (tolerance : Binary32) (older : List (Note ι))
    (account : Account) : Note ι → Option Entry
  | .called j call => if j = i then s.enteredBy? account call else none
  | .exchanged j request mode result =>
    if j = i ∧ request.kind = .setSpeed ∧ Workshop.completes s i request mode result older then
      some (.programmed (Workshop.dueSpeed i mode (Workshop.beforeSending older) account) tolerance)
    else none
  | .read j reply .. => if j = i then s.readBy? reply else none
  | .sending .. | .alarm .. => none

/-- **The account of a spindle**, from the notes of a workshop and the tolerances that were held
when the exchanges of the spindle were over. -/
def account (s : Spindle) (i : ι) : List (Note ι) → List Binary32 → Account
  | [], _ => []
  | n :: older, held =>
    let before := s.account i older (held.drop (if n.isExchangeOf i then 1 else 0))
    (s.entered? i (held.headD .zero) older before n).toList ++ before

/-- **Whenever a request was handed over the spindle agreed with its account** of that time. -/
def Told (s : Spindle) (i : ι) (notes : List (Note ι)) (held : List Binary32) : Prop :=
  ∀ newer older j request mode contexts,
    notes = newer ++ .sending j request mode contexts :: older →
    (contexts i).Agrees (s.account i older (held.drop (newer.countP (Note.isExchangeOf i))))

variable {s : Spindle} {i j : ι} {n : Note ι} {newer older : List (Note ι)} {held : List Binary32}
  {request : Request} {mode : SendMode} {contexts : ι → SpindleContext}

lemma account_cons_of_isExchangeOf (hn : n.isExchangeOf i = false) :
    s.account i (n :: older) held =
      (s.entered? i (held.headD .zero) older (s.account i older held) n).toList ++
        s.account i older held := by
  simp [account, hn]

lemma account_sending :
    s.account i (.sending j request mode contexts :: older) held = s.account i older held :=
  account_cons_of_isExchangeOf rfl

lemma account_alarm : s.account i (.alarm j :: older) held = s.account i older held :=
  account_cons_of_isExchangeOf rfl

lemma account_read {reply : Reply} {coldStart : Bool} {before : SpindleContext} :
    s.account i (.read j reply coldStart before :: older) held =
      (if j = i then s.readBy? reply else none).toList ++ s.account i older held :=
  account_cons_of_isExchangeOf rfl

lemma account_called {call : HostCall} :
    s.account i (.called j call :: older) held =
      (if j = i then s.enteredBy? (s.account i older held) call else none).toList ++
        s.account i older held :=
  account_cons_of_isExchangeOf rfl

/-- The exchanges of other spindles have no part in an account. -/
lemma account_exchanged_of_ne {result : Exchange} (hj : j ≠ i) :
    s.account i (.exchanged j request mode result :: older) held = s.account i older held := by
  rw [account_cons_of_isExchangeOf (by simpa [Note.isExchangeOf] using hj)]
  simp [entered?, hj]

/-- When an exchange of the spindle is over, one more tolerance is given. -/
lemma account_exchanged_self {result : Exchange} {tolerance : Binary32} :
    s.account i (.exchanged i request mode result :: older) (tolerance :: held) =
      (if request.kind = .setSpeed ∧ Workshop.completes s i request mode result older then
        some (Entry.programmed
          (Workshop.dueSpeed i mode (Workshop.beforeSending older) (s.account i older held))
          tolerance)
        else none).toList ++ s.account i older held := by
  simp [account, entered?, Note.isExchangeOf]

/-- What is noted between the sending of a request and its end does not change the speed. -/
lemma speed_account_cons (hn : n.isTraffic = false) :
    (s.account i (n :: older) held).speed = (s.account i older held).speed := by
  cases n with
  | called | sending | exchanged => simp [Note.isTraffic] at hn
  | alarm => rw [account_alarm]
  | read j reply coldStart before =>
      rw [account_read, readBy?]
      split
      · cases reply.reading? <;> rfl
      · rfl

lemma speed_account_append (hnewer : ∀ n ∈ newer, n.isTraffic = false) :
    (s.account i (newer ++ older) held).speed = (s.account i older held).speed :=
  Note.append_eq_of_cons_eq (f := fun notes => (s.account i notes held).speed)
    (fun _ _ hn => speed_account_cons hn) hnewer

/-! ### What was told -/

lemma told_nil : s.Told i [] held := by
  intro newer older j request mode contexts hnotes
  simp at hnotes

lemma Told.sending (h : s.Told i older held)
    (hagrees : (contexts i).Agrees (s.account i older held)) :
    s.Told i (.sending j request mode contexts :: older) held := by
  intro newer older' j' request' mode' contexts' hnotes
  cases newer with
  | nil =>
      obtain ⟨⟨rfl, rfl, rfl, rfl⟩, rfl⟩ := by simpa using hnotes
      exact hagrees
  | cons n newer =>
      rw [List.cons_append, List.cons.injEq] at hnotes
      rcases hnotes with ⟨rfl, hnotes⟩
      exact h newer older' j' request' mode' contexts' hnotes

/-- Nothing else is told than requests. -/
lemma Told.cons {earlier : List Binary32} (h : s.Told i older earlier)
    (hn : ∀ j request mode contexts, n ≠ .sending j request mode contexts)
    (hheld : held.drop (if n.isExchangeOf i then 1 else 0) = earlier) :
    s.Told i (n :: older) held := by
  intro newer older' j request mode contexts hnotes
  cases newer with
  | nil => exact absurd (List.cons.inj hnotes).1 (hn j request mode contexts)
  | cons m newer =>
      rw [List.cons_append, List.cons.injEq] at hnotes
      rcases hnotes with ⟨rfl, hnotes⟩
      have hagrees := h newer older' j request mode contexts hnotes
      rw [← hheld, List.drop_drop] at hagrees
      rw [List.countP_cons, Nat.add_comm]
      exact hagrees

lemma Told.cons_of_isTraffic (h : s.Told i older held) (hn : n.isTraffic = false) :
    s.Told i (n :: older) held := by
  cases n with
  | called | sending | exchanged => simp [Note.isTraffic] at hn
  | read | alarm => exact h.cons (by simp) rfl

/-- What is noted between the sending of a request and its end tells nothing. -/
lemma Told.append (h : s.Told i older held) (hnewer : ∀ n ∈ newer, n.isTraffic = false) :
    s.Told i (newer ++ older) held := by
  induction newer with
  | nil => exact h
  | cons n newer ih =>
      exact (ih fun m hm => hnewer m (by simp [hm])).cons_of_isTraffic (hnewer n (by simp))

end Spindle

namespace Workshop

variable {n : Note ι} {newer older : List (Note ι)}

omit [DecidableEq ι] in
lemma beforeSending_append (hnewer : ∀ n ∈ newer, n.isTraffic = false) (j : ι) (request : Request)
    (mode : SendMode) (contexts : ι → SpindleContext) :
    beforeSending (newer ++ .sending j request mode contexts :: older) = older := by
  refine Note.append_eq_of_cons_eq (f := beforeSending) (fun n older hn => ?_) hnewer
  cases n with
  | called | sending | exchanged => simp [Note.isTraffic] at hn
  | read | alarm => rfl

lemma askedSpeed_cons_of_isCall {i : ι} (hn : n.isCall = false) :
    askedSpeed i (n :: older) = askedSpeed i older := by
  cases n with
  | called => simp [Note.isCall] at hn
  | sending | exchanged | read | alarm => rfl

lemma askedSpeed_cons_of_isTraffic {i : ι} (hn : n.isTraffic = false) :
    askedSpeed i (n :: older) = askedSpeed i older := by
  refine askedSpeed_cons_of_isCall ?_
  cases n with
  | called => simp [Note.isTraffic] at hn
  | sending | exchanged | read | alarm => rfl

lemma askedSpeed_called (i : ι) (call : HostCall) (older : List (Note ι)) :
    askedSpeed i (.called i call :: older) = call.speed?.getD (askedSpeed i older) := by
  simp only [askedSpeed, List.findSome?_cons, Note.asked?, if_true]
  cases call.speed? <;> rfl

lemma askedSpeed_append (hnewer : ∀ n ∈ newer, n.isTraffic = false) (i : ι) :
    askedSpeed i (newer ++ older) = askedSpeed i older :=
  Note.append_eq_of_cons_eq (f := askedSpeed i)
    (fun _ _ hn => askedSpeed_cons_of_isTraffic hn) hnewer

lemma failures_cons_of_isTraffic (hn : n.isTraffic = false) (i : ι) (kind : RequestKind) :
    failures i kind (n :: older) = failures i kind older := by
  cases n with
  | called | sending | exchanged => simp [Note.isTraffic] at hn
  | read | alarm => simp [failures, Note.isCall, Note.isFailure]

lemma failures_append (hnewer : ∀ n ∈ newer, n.isTraffic = false) (i : ι) (kind : RequestKind) :
    failures i kind (newer ++ older) = failures i kind older :=
  Note.append_eq_of_cons_eq (f := failures i kind)
    (fun _ _ hn => failures_cons_of_isTraffic hn i kind) hnewer

end Workshop

end SpindleDrive
