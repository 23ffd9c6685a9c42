import VectorSeam.Sender

/-!
What every socket of the sender carries. Each dequeued frame is settled on at most one
socket, whole or cut off; a socket on which a frame was cut off is given up at once, so
that a cut frame is the last of its socket.
-/

namespace VectorSeam.SenderStreams
open VectorSeam.LittleEndian VectorSeam.Blobs VectorSeam.SdkFrames VectorSeam.Sender

variable {config : SenderConfig} {trace : List Event} {state : State}

/-! ### Settled frames -/

/-- Where frames have gone, by their number in the order of dequeueing: the frames that a socket carries whole,
    and the one that was cut off on it, with the bytes it carries of it. -/
structure Settlement where
  whole : Sock → List Nat
  cut : Sock → Option (Nat × Bytes)

namespace Settlement

/-- The numbers of the frames that a socket carries something of. -/
def touched (settlement : Settlement) (sock : Sock) : List Nat :=
  settlement.whole sock ++ (settlement.cut sock).toList.map Prod.fst

/-- The bytes that the settlement puts on a socket. -/
def carried (settlement : Settlement) (frames : List Bytes) (sock : Sock) : Bytes :=
  ((settlement.whole sock).flatMap fun number => frames.getD number []) ++
    (settlement.cut sock).toList.flatMap Prod.snd

/-- Every socket carries frames below `bound` in their order, none that another one carries, and at most one cut off. -/
structure Fair (settlement : Settlement) (frames : List Bytes) (bound : Nat) : Prop where
  ordered : ∀ sock, (settlement.touched sock).Pairwise (· < ·)
  below : ∀ sock, ∀ number ∈ settlement.touched sock, number < bound
  apart : ∀ sock other number, number ∈ settlement.touched sock → number ∈ settlement.touched other → sock = other
  proper : ∀ sock number bytes, settlement.cut sock = some (number, bytes) →
    bytes <+: frames.getD number [] ∧ bytes.length < (frames.getD number []).length

end Settlement

theorem getD_append_left (frames more : List Bytes) {number : Nat} (below : number < frames.length) :
    (frames ++ more).getD number [] = frames.getD number [] := by
  rw [List.getD_eq_getElem?_getD, List.getD_eq_getElem?_getD, List.getElem?_append_left below]

/-- Frames dequeued later change nothing. -/
theorem Settlement.Fair.extend {settlement : Settlement} {frames : List Bytes} {bound : Nat} (more : List Bytes)
    (fair : settlement.Fair frames bound) (known : bound ≤ frames.length) : settlement.Fair (frames ++ more) bound ∧
      ∀ sock, settlement.carried (frames ++ more) sock = settlement.carried frames sock := by
  have same : ∀ sock, ∀ number ∈ settlement.touched sock, (frames ++ more).getD number [] = frames.getD number [] :=
    fun sock number member => getD_append_left _ _ (lt_of_lt_of_le (fair.below sock number member) known)
  refine ⟨⟨fair.ordered, fair.below, fair.apart, fun sock number bytes cut => ?_⟩, fun sock => ?_⟩
  · rw [same sock number (by simp [Settlement.touched, cut])]
    exact fair.proper sock number bytes cut
  · unfold Settlement.carried
    congr 1
    exact List.flatMap_congr fun number member => same sock number (List.mem_append_left _ member)

theorem Settlement.Fair.mono {settlement : Settlement} {frames : List Bytes} {bound later : Nat}
    (fair : settlement.Fair frames bound) (le : bound ≤ later) : settlement.Fair frames later :=
  ⟨fair.ordered, fun sock number member => lt_of_lt_of_le (fair.below sock number member) le, fair.apart, fair.proper⟩

theorem flatMap_range' (frames : List Bytes) {bound count : Nat} (inside : bound + count ≤ frames.length) :
    (List.range' bound count).flatMap (fun number => frames.getD number []) = ((frames.drop bound).take count).flatten := by
  rw [List.flatMap_def]
  congr 1
  refine List.ext_getElem (by simp; omega) fun number left right => ?_
  have here : bound + number < frames.length := by
    rw [List.length_map, List.length_range'] at left
    omega
  simp [List.getD_eq_getElem?_getD, here]

/-- The first bytes of the frames from `bound` on: complete frames and a proper prefix of the next one. -/
theorem batch_take (frames : List Bytes) {bound : Nat} (known : bound ≤ frames.length) (count : Nat) :
    ∃ complete rest, bound + complete ≤ frames.length ∧
      ((frames.drop bound).flatten).take count = ((frames.drop bound).take complete).flatten ++ rest ∧
      (rest = [] ∨ bound + complete < frames.length ∧ rest <+: frames.getD (bound + complete) [] ∧
        rest.length < (frames.getD (bound + complete) []).length) ∧
      (((frames.drop bound).flatten).length ≤ count → rest = []) := by
  by_cases all : ((frames.drop bound).flatten).length ≤ count
  · refine ⟨frames.length - bound, [], by omega, ?_, .inl rfl, fun _ => rfl⟩
    rw [List.take_of_length_le all, List.take_of_length_le (by simp), List.append_nil]
  · obtain ⟨complete, rest, split, ended⟩ := take_flatten (frames.drop bound) count
    rcases ended with rfl | ⟨frame, found, cut, short⟩
    · by_cases inside : bound + complete ≤ frames.length
      · exact ⟨complete, [], inside, split, .inl rfl, fun _ => rfl⟩
      · refine ⟨frames.length - bound, [], by omega, ?_, .inl rfl, fun _ => rfl⟩
        have few : (frames.drop bound).take complete = frames.drop bound :=
          List.take_of_length_le (by rw [List.length_drop]; omega)
        have whole : (frames.drop bound).take (frames.length - bound) = frames.drop bound := List.take_of_length_le (by simp)
        rw [split, few, whole]
    · have inside : complete < (frames.drop bound).length := (List.getElem?_eq_some_iff.mp found).1
      rw [List.length_drop] at inside
      have same : frames.getD (bound + complete) [] = frame := by
        rw [List.getElem?_drop] at found
        rw [List.getD_eq_getElem?_getD, found]
        rfl
      refine ⟨complete, rest, by omega, split, .inr ⟨by omega, same ▸ cut, same ▸ short⟩, fun long => absurd long all⟩

/-- The frames from `bound` on are settled on a socket as far as the first `count` bytes of their batch go. -/
theorem Settlement.Fair.settle {settlement : Settlement} {frames : List Bytes} {bound : Nat}
    (fair : settlement.Fair frames bound) (known : bound ≤ frames.length) {sock : Sock} (clean : settlement.cut sock = none)
    (count : Nat) : ∃ settled : Settlement, settled.Fair frames frames.length ∧
      settled.carried frames sock = settlement.carried frames sock ++ ((frames.drop bound).flatten).take count ∧
      (∀ other, other ≠ sock → settled.whole other = settlement.whole other ∧ settled.cut other = settlement.cut other) ∧
      (((frames.drop bound).flatten).length ≤ count → settled.cut sock = none) := by
  obtain ⟨complete, rest, inside, split, ended, all⟩ := batch_take frames known count
  let settled : Settlement := {
    whole := Function.update settlement.whole sock (settlement.whole sock ++ List.range' bound complete)
    cut := Function.update settlement.cut sock (if rest = [] then none else some (bound + complete, rest)) }
  have others : ∀ other, other ≠ sock → settled.whole other = settlement.whole other ∧ settled.cut other = settlement.cut other :=
    fun other different => ⟨Function.update_of_ne different _ _, Function.update_of_ne different _ _⟩
  have ownWhole : settled.whole sock = settlement.whole sock ++ List.range' bound complete := Function.update_self ..
  have ownCut : settled.cut sock = if rest = [] then none else some (bound + complete, rest) := Function.update_self ..
  have same : ∀ other, other ≠ sock → settled.touched other = settlement.touched other := by
    intro other different
    rw [touched, touched, (others other different).1, (others other different).2]
  -- the socket gets the numbers from `bound` on, one more of them when a frame was cut off
  have own : ∃ extra, bound + extra ≤ frames.length ∧
      settled.touched sock = settlement.touched sock ++ List.range' bound extra := by
    by_cases nothing : rest = []
    · refine ⟨complete, inside, ?_⟩
      rw [touched, touched, ownWhole, ownCut, if_pos nothing, clean]
      simp
    · obtain ⟨further, _, _⟩ := ended.resolve_left nothing
      refine ⟨complete + 1, by omega, ?_⟩
      rw [touched, touched, ownWhole, ownCut, if_neg nothing, clean, List.range'_concat]
      simp
  obtain ⟨extra, room, own⟩ := own
  have numbers : ∀ other, ∀ number ∈ settled.touched other, number ∈ settlement.touched other ∨
      other = sock ∧ bound ≤ number ∧ number < frames.length := by
    intro other number member
    by_cases here : other = sock
    · subst here
      rw [own, List.mem_append, List.mem_range'_1] at member
      rcases member with earlier | ⟨low, high⟩
      · exact .inl earlier
      · exact .inr ⟨rfl, low, by omega⟩
    · rw [same other here] at member
      exact .inl member
  refine ⟨settled, ⟨fun other => ?_, fun other number member => ?_, fun first second number left right => ?_,
    fun other number bytes cut => ?_⟩, ?_, others, fun long => ?_⟩
  · by_cases here : other = sock
    · subst here
      rw [own, List.pairwise_append]
      refine ⟨fair.ordered other, List.pairwise_lt_range', fun earlier old later new => ?_⟩
      have low := fair.below other earlier old
      have high := (List.mem_range'_1.mp new).1
      omega
    · rw [same other here]
      exact fair.ordered other
  · rcases numbers other number member with old | ⟨_, _, high⟩
    · exact lt_of_lt_of_le (fair.below other number old) known
    · exact high
  · rcases numbers first number left with old | ⟨here, low, _⟩
    · rcases numbers second number right with old' | ⟨_, low', _⟩
      · exact fair.apart first second number old old'
      · exact absurd (fair.below first number old) (by omega)
    · rcases numbers second number right with old' | ⟨here', _, _⟩
      · exact absurd (fair.below second number old') (by omega)
      · rw [here, here']
  · by_cases here : other = sock
    · subst here
      rw [ownCut] at cut
      by_cases nothing : rest = []
      · rw [if_pos nothing] at cut
        cases cut
      · rw [if_neg nothing] at cut
        obtain ⟨_, leads, short⟩ := ended.resolve_left nothing
        obtain ⟨rfl, rfl⟩ := Prod.mk.inj (Option.some.inj cut)
        exact ⟨leads, short⟩
    · rw [(others other here).2] at cut
      exact fair.proper other number bytes cut
  · rw [carried, carried, ownWhole, ownCut, clean, List.flatMap_append, flatMap_range' frames inside, split]
    by_cases nothing : rest = []
    · subst nothing
      simp
    · rw [if_neg nothing]
      simp
  · rw [ownCut, if_pos (all long)]

/-! ### The invariant -/

/-- The sender thread has the socket in hand and may still write to it. -/
def Holds : Place → Sock → Prop
  | .connecting sock, other => sock = other
  | .connected sock, other => sock = other
  | .drain_initial_frames sock, other => sock = other
  | .try_dequeue sock, other => sock = other
  | .flush_wait sock _, other => sock = other
  | .drain_more sock _, other => sock = other
  | .sending sock _ _, other => sock = other
  | .writing sock _ _, other => sock = other
  | _, _ => False

/-- The socket is given up before the thread looks for one again. -/
def Doomed (place : Place) (sock : Sock) : Prop := place = .close_socket sock ∨ place = .finishing

/-- What a socket carries of the batch that is being sent. -/
def pending : Place → Sock → Bytes
  | .sending sock batch sent_bytes, other => if sock = other then batch.take sent_bytes else []
  | .writing sock batch sent_bytes, other => if sock = other then batch.take sent_bytes else []
  | _, _ => []

/-- The frames in hand are those dequeued from `bound` on. -/
def Batched (frames : List Bytes) (bound : Nat) : Place → Prop
  | .flush_wait _ held => frames.drop bound = held
  | .drain_more _ held => frames.drop bound = held
  | .sending _ batch sent_bytes => batch = (frames.drop bound).flatten ∧ sent_bytes ≤ batch.length
  | .writing _ batch sent_bytes => batch = (frames.drop bound).flatten ∧ sent_bytes ≤ batch.length
  | _ => True

/-- The frames below `bound` are settled, and no socket with a cut frame is used again. -/
structure Tidy (trace : List Event) (state : State) (settlement : Settlement) (bound : Nat) : Prop where
  queue : captured trace = dequeued trace ++ state.queue
  fair : settlement.Fair (dequeued trace) bound
  known : bound ≤ (dequeued trace).length
  written : ∀ sock, written trace sock = settlement.carried (dequeued trace) sock ++ pending state.place sock
  held : ∀ sock, Holds state.place sock → settlement.cut sock = none ∧ sock < state.opened
  current : ∀ sock, state.sock = some sock → (settlement.cut sock = none ∨ Doomed state.place sock) ∧ sock < state.opened
  fresh : ∀ sock, state.opened ≤ sock → settlement.cut sock = none
  batch : Batched (dequeued trace) bound state.place

theorem tidy_initial : Tidy [] initial ⟨fun _ => [], fun _ => none⟩ 0 where
  queue := rfl
  fair := ⟨fun _ => .nil, nofun, nofun, nofun⟩
  known := Nat.zero_le _
  written := fun _ => rfl
  held := nofun
  current := nofun
  fresh := fun _ _ => rfl
  batch := trivial

section Steps
variable {state' : State} {settlement : Settlement} {bound : Nat}

/-- A step that moves no frame and no byte. -/
theorem Tidy.move (tidy : Tidy trace state settlement bound) (queue : state'.queue = state.queue)
    (opened : state.opened ≤ state'.opened) (still : ∀ sock, pending state'.place sock = pending state.place sock)
    (held : ∀ sock, Holds state'.place sock → settlement.cut sock = none ∧ sock < state'.opened)
    (current : ∀ sock, state'.sock = some sock →
      (settlement.cut sock = none ∨ Doomed state'.place sock) ∧ sock < state'.opened)
    (batch : Batched (dequeued trace) bound state'.place) : Tidy trace state' settlement bound where
  queue := by rw [queue]; exact tidy.queue
  fair := tidy.fair
  known := tidy.known
  written := fun sock => by rw [still]; exact tidy.written sock
  held := held
  current := current
  fresh := fun sock later => tidy.fresh sock (opened.trans later)
  batch := batch

/-- The frames of a batch are settled when the thread is done with it. -/
theorem Tidy.settle (tidy : Tidy trace state settlement bound) {sock : Sock} {batch : Bytes} {sent_bytes : Nat}
    (place : state.place = .sending sock batch sent_bytes ∨ state.place = .writing sock batch sent_bytes)
    (queue : state'.queue = state.queue) (opened : state'.opened = state.opened) (current : state'.sock = state.sock)
    (still : ∀ other, pending state'.place other = []) (nothing : ∀ other, ¬Holds state'.place other)
    (idle : ∀ frames bound, Batched frames bound state'.place)
    (ended : batch.length ≤ sent_bytes ∨ Doomed state'.place sock) :
    ∃ settled, Tidy trace state' settled (dequeued trace).length := by
  have holds : Holds state.place sock := by
    rcases place with here | here
    · rw [here]
      rfl
    · rw [here]
      rfl
  obtain ⟨clean, old⟩ := tidy.held sock holds
  have batched : batch = ((dequeued trace).drop bound).flatten ∧ sent_bytes ≤ batch.length := by
    have own := tidy.batch
    rcases place with here | here
    · rw [here] at own
      exact own
    · rw [here] at own
      exact own
  have carrying : ∀ other, pending state.place other = if sock = other then batch.take sent_bytes else [] := by
    intro other
    rcases place with here | here
    · rw [here]
      rfl
    · rw [here]
      rfl
  have undoomed : ∀ other, ¬Doomed state.place other := by
    rintro other (here | here)
    · rcases place with there | there
      · rw [there] at here
        cases here
      · rw [there] at here
        cases here
    · rcases place with there | there
      · rw [there] at here
        cases here
      · rw [there] at here
        cases here
  obtain ⟨settled, fair, own, others, all⟩ := tidy.fair.settle tidy.known clean sent_bytes
  refine ⟨settled, ⟨by rw [queue]; exact tidy.queue, fair, Nat.le_refl _, fun other => ?_,
    fun other held => absurd held (nothing other), fun other found => ?_, fun other later => ?_, idle _ _⟩⟩
  · rw [tidy.written other, still other, carrying other, List.append_nil]
    by_cases here : sock = other
    · subst here
      rw [if_pos rfl, own, ← batched.1]
    · rw [if_neg here, List.append_nil, Settlement.carried, Settlement.carried, (others other (Ne.symm here)).1,
        (others other (Ne.symm here)).2]
  · rw [current] at found
    obtain ⟨cleanOrDoomed, known⟩ := tidy.current other found
    rw [opened]
    refine ⟨?_, known⟩
    by_cases here : other = sock
    · subst here
      exact ended.imp (fun long => all (by rw [← batched.1]; exact long)) id
    · left
      rw [(others other here).2]
      exact cleanOrDoomed.resolve_right (undoomed other)
  · rw [opened] at later
    rw [(others other (lt_of_lt_of_le old later).ne').2]
    exact tidy.fresh other later

theorem traced_snoc (trace : List Event) (event : Event) (sock : Sock) :
    captured (trace ++ [event]) = captured trace ++ event.frames_in ∧
      dequeued (trace ++ [event]) = dequeued trace ++ event.frames_out ∧
      Sender.written (trace ++ [event]) sock = Sender.written trace sock ++ event.bytes_to sock := by
  simp [captured, dequeued, Sender.written]

/-- A step that takes frames off the queue. -/
theorem Tidy.dequeue (tidy : Tidy trace state settlement bound) {frames queue : List Bytes} {place : Place} {start : Nat}
    (taken : state.queue = frames ++ queue) (began : bound ≤ start) (inside : start ≤ (dequeued trace).length)
    (before : ∀ sock, pending state.place sock = []) (still : ∀ sock, pending place sock = [])
    (same : ∀ sock, Holds place sock → Holds state.place sock) (undoomed : ∀ sock, ¬Doomed state.place sock)
    (batch : Batched (dequeued trace ++ frames) start place) :
    Tidy (trace ++ [.dequeued frames]) (state.dequeue frames queue place) settlement start := by
  obtain ⟨fair, carried⟩ := tidy.fair.extend frames tidy.known
  have ins : captured (trace ++ [.dequeued frames]) = captured trace := by
    rw [(traced_snoc trace _ 0).1]
    exact List.append_nil _
  have outs : dequeued (trace ++ [.dequeued frames]) = dequeued trace ++ frames := (traced_snoc trace _ 0).2.1
  refine ⟨?_, ?_, ?_, fun sock => ?_, fun sock held => tidy.held sock (same sock held), fun sock found => ?_, tidy.fresh, ?_⟩
  · rw [ins, outs, tidy.queue, taken, List.append_assoc]
    rfl
  · rw [outs]
    exact fair.mono began
  · rw [outs, List.length_append]
    omega
  · rw [(traced_snoc trace _ sock).2.2, outs, carried, tidy.written sock, before]
    change _ = _ ++ pending place sock
    rw [still]
    exact List.append_nil _
  · obtain ⟨clean, known⟩ := tidy.current sock found
    exact ⟨.inl (clean.resolve_right (undoomed sock)), known⟩
  · rw [outs]
    exact batch

/-- The current socket is unharmed unless it is about to be given up. -/
theorem Tidy.unharmed (tidy : Tidy trace state settlement bound) (undoomed : ∀ sock, ¬Doomed state.place sock) {sock : Sock}
    (current : state.sock = some sock) : settlement.cut sock = none ∧ sock < state.opened :=
  ⟨(tidy.current sock current).1.resolve_right (undoomed sock), (tidy.current sock current).2⟩

/-- A step of the sender thread that moves no frame and no byte, at a place where no socket is doomed. -/
theorem Tidy.turn (tidy : Tidy trace state settlement bound) (queue : state'.queue = state.queue)
    (opened : state'.opened = state.opened) (current : state'.sock = state.sock)
    (before : ∀ sock, pending state.place sock = [] ∧ ¬Doomed state.place sock)
    (still : ∀ sock, pending state'.place sock = [])
    (held : ∀ sock, Holds state'.place sock → Holds state.place sock ∨ state.sock = some sock)
    (batch : Batched (dequeued trace) bound state'.place) : Tidy trace state' settlement bound := by
  have unharmed : ∀ {sock}, state.sock = some sock → settlement.cut sock = none ∧ sock < state.opened :=
    tidy.unharmed fun sock => (before sock).2
  refine tidy.move queue opened.ge (fun sock => (still sock).trans (before sock).1.symm) (fun sock holds => ?_)
    (fun sock found => ?_) batch
  · rw [opened]
    rcases held sock holds with holding | found
    · exact tidy.held sock holding
    · exact unharmed found
  · rw [current] at found
    rw [opened]
    exact ⟨.inl (unharmed found).1, (unharmed found).2⟩

/-- A step of another thread that leaves the queue alone, and the current socket or none. -/
theorem Tidy.aside (tidy : Tidy trace state settlement bound) (queue : state'.queue = state.queue)
    (opened : state'.opened = state.opened) (place : state'.place = state.place)
    (current : ∀ sock, state'.sock = some sock → state.sock = some sock) : Tidy trace state' settlement bound := by
  refine tidy.move queue opened.ge (fun sock => by rw [place]) (fun sock holds => ?_) (fun sock found => ?_) ?_
  · rw [place] at holds
    rw [opened]
    exact tidy.held sock holds
  · rw [place, opened]
    exact tidy.current sock (current sock found)
  · rw [place]
    exact tidy.batch

theorem Tidy.capture (tidy : Tidy trace state settlement bound) (frame : Bytes) (queue : state'.queue = state.queue ++ [frame])
    (opened : state'.opened = state.opened) (place : state'.place = state.place) (current : state'.sock = state.sock) :
    Tidy (trace ++ [.captured frame]) state' settlement bound := by
  have outs : dequeued (trace ++ [.captured frame]) = dequeued trace :=
    (traced_snoc trace _ 0).2.1.trans (List.append_nil _)
  refine ⟨?_, ?_, ?_, fun sock => ?_, ?_, ?_, ?_, ?_⟩
  · rw [(traced_snoc trace _ 0).1, outs, tidy.queue, queue, List.append_assoc]
    rfl
  · rw [outs]
    exact tidy.fair
  · rw [outs]
    exact tidy.known
  · rw [(traced_snoc trace _ sock).2.2, outs, place]
    exact (List.append_nil _).trans (tidy.written sock)
  · rw [place, opened]
    exact tidy.held
  · rw [place, opened, current]
    exact tidy.current
  · rw [opened]
    exact tidy.fresh
  · rw [outs, place]
    exact tidy.batch

/-- Further bytes of the batch are accepted. -/
theorem Tidy.write (tidy : Tidy trace state settlement bound) {sock : Sock} {batch : Bytes} {sent_bytes sent_now : Nat}
    (here : state.place = .writing sock batch sent_bytes) (fits : sent_bytes + sent_now ≤ batch.length) :
    Tidy (trace ++ [.wrote sock ((batch.drop sent_bytes).take sent_now)])
      { state with place := .sending sock batch (sent_bytes + sent_now) } settlement bound := by
  have ins : captured (trace ++ [.wrote sock ((batch.drop sent_bytes).take sent_now)]) = captured trace :=
    (traced_snoc trace _ 0).1.trans (List.append_nil _)
  have outs : dequeued (trace ++ [.wrote sock ((batch.drop sent_bytes).take sent_now)]) = dequeued trace :=
    (traced_snoc trace _ 0).2.1.trans (List.append_nil _)
  have undoomed : ∀ other, ¬Doomed state.place other := by
    intro other
    simp [Doomed, here]
  have batched := tidy.batch
  rw [here] at batched
  refine ⟨by rw [ins, outs]; exact tidy.queue, by rw [outs]; exact tidy.fair, by rw [outs]; exact tidy.known,
    fun other => ?_, fun other holds => tidy.held other (by rw [here]; exact holds), fun other found => ?_, tidy.fresh, ?_⟩
  · rw [(traced_snoc trace _ other).2.2, outs, tidy.written other, here, List.append_assoc]
    congr 1
    change (if sock = other then _ else _) ++ (if sock = other then _ else _) = if sock = other then _ else _
    by_cases own : sock = other
    · rw [if_pos own, if_pos own, if_pos own, List.take_add]
    · rw [if_neg own, if_neg own, if_neg own]
      rfl
  · obtain ⟨clean, known⟩ := tidy.unharmed undoomed found
    exact ⟨.inl clean, known⟩
  · rw [outs]
    exact ⟨batched.1, fits⟩

/-- The thread leaves its loop from wherever it stands. -/
theorem Tidy.raise (tidy : Tidy trace state settlement bound) :
    ∃ settlement bound, Tidy trace { state with place := .finishing } settlement bound := by
  have still : (∀ sock, pending state.place sock = []) →
      ∃ settlement bound, Tidy trace { state with place := .finishing } settlement bound := by
    intro before
    exact ⟨settlement, bound, tidy.move rfl (Nat.le_refl _) (fun sock => (before sock).symm) nofun
      (fun sock found => ⟨.inr (.inr rfl), (tidy.current sock found).2⟩) trivial⟩
  cases here : state.place with
  | sending =>
    obtain ⟨settled, tidy⟩ : ∃ settled, Tidy trace { state with place := .finishing } settled _ :=
      tidy.settle (.inl here) rfl rfl rfl (fun _ => rfl) nofun (fun _ _ => trivial) (.inr (.inr rfl))
    exact ⟨settled, _, tidy⟩
  | writing =>
    obtain ⟨settled, tidy⟩ : ∃ settled, Tidy trace { state with place := .finishing } settled _ :=
      tidy.settle (.inr here) rfl rfl rfl (fun _ => rfl) nofun (fun _ _ => trivial) (.inr (.inr rfl))
    exact ⟨settled, _, tidy⟩
  | _ => exact still (by simp [here, pending])

end Steps

/-- Every step of any thread keeps the frames settled. -/
theorem tidy_step {event : Option Event} {state' : State} {settlement : Settlement} {bound : Nat}
    (tidy : Tidy trace state settlement bound) (step : Step config state event state') :
    ∃ settlement bound, Tidy (trace ++ event.toList) state' settlement bound := by
  have quiet : ∀ {later settlement bound}, Tidy trace later settlement bound →
      ∃ settlement bound, Tidy (trace ++ (none : Option Event).toList) later settlement bound := by
    intro later settlement bound tidy
    exact ⟨settlement, bound, by rw [Option.toList_none, List.append_nil]; exact tidy⟩
  cases step with
  | @capture_vector _ _ _ _ frame => exact ⟨settlement, bound, tidy.capture frame rfl rfl rfl rfl⟩
  | start dead =>
    exact quiet (tidy.turn rfl rfl rfl (by simp [dead, pending, Doomed]) (fun _ => rfl) nofun trivial)
  | stop => exact quiet (tidy.aside rfl rfl rfl fun sock found => found)
  | stop_close => exact quiet (tidy.aside rfl rfl rfl nofun)
  | close => exact quiet (tidy.aside rfl rfl rfl fun sock found => found)
  | leave here =>
    exact quiet (tidy.turn rfl rfl rfl (by simp [here, pending, Doomed]) (fun _ => rfl) nofun trivial)
  | enter here =>
    exact quiet (tidy.turn rfl rfl rfl (by simp [here, pending, Doomed]) (fun _ => rfl) nofun trivial)
  | reuse here current =>
    refine quiet (tidy.turn rfl rfl rfl (by simp [here, pending, Doomed]) (fun _ => rfl) (fun sock holds => .inr ?_) trivial)
    rw [current]
    exact congrArg some holds
  | create here disconnected =>
    refine quiet (tidy.move rfl (Nat.le_succ _) (fun sock => by simp [here, pending]) (fun sock holds => ?_)
      (fun sock found => ?_) trivial)
    · cases holds
      exact ⟨tidy.fresh _ (Nat.le_refl _), Nat.lt_succ_self _⟩
    · rw [disconnected] at found
      cases found
  | refused here =>
    exact quiet (tidy.move rfl (Nat.le_refl _) (fun sock => by simp [here, pending]) nofun nofun trivial)
  | accepted here =>
    exact quiet (tidy.turn rfl rfl rfl (by simp [here, pending, Doomed]) (fun _ => rfl)
      (fun sock holds => .inl (by rw [here]; exact holds)) trivial)
  | unwanted here =>
    exact quiet (tidy.turn rfl rfl rfl (by simp [here, pending, Doomed]) (fun _ => rfl) nofun trivial)
  | publish here =>
    have holding : ∀ sock, Holds state.place sock → settlement.cut sock = none ∧ sock < state.opened := tidy.held
    rw [here] at holding
    refine quiet (tidy.move rfl (Nat.le_refl _) (fun sock => by simp [here, pending]) holding (fun sock found => ?_) trivial)
    obtain ⟨clean, known⟩ := holding sock (Option.some.inj found)
    exact ⟨.inl clean, known⟩
  | drained here taken =>
    exact ⟨settlement, _, tidy.dequeue (drain_frames_split taken) tidy.known (Nat.le_refl _) (by simp [here, pending])
      (fun _ => rfl) (fun sock holds => by rw [here]; exact holds) (by simp [here, Doomed]) List.drop_left⟩
  | nothing_fits here =>
    exact quiet (tidy.turn rfl rfl rfl (by simp [here, pending, Doomed]) (fun _ => rfl)
      (fun sock holds => .inl (by rw [here]; exact holds)) trivial)
  | dequeued here waiting =>
    exact ⟨settlement, _, tidy.dequeue waiting tidy.known (Nat.le_refl _) (by simp [here, pending]) (fun _ => rfl)
      (fun sock holds => by rw [here]; exact holds) (by simp [here, Doomed]) List.drop_left⟩
  | idle here => exact quiet (tidy.turn rfl rfl rfl (by simp [here, pending, Doomed]) (fun _ => rfl) nofun trivial)
  | interrupted here =>
    exact quiet (tidy.turn rfl rfl rfl (by simp [here, pending, Doomed]) (fun _ => rfl) nofun trivial)
  | flushed here =>
    have held := tidy.batch
    rw [here] at held
    exact quiet (tidy.turn rfl rfl rfl (by simp [here, pending, Doomed]) (fun _ => rfl)
      (fun sock holds => .inl (by rw [here]; exact holds)) held)
  | @batched _ frames more _ here taken =>
    have held := tidy.batch
    rw [here] at held
    have batch : (frames ++ more).flatten = ((dequeued trace ++ more).drop bound).flatten := by
      rw [List.drop_append_of_le_length tidy.known, held]
    exact ⟨settlement, bound, tidy.dequeue (more_frames_split taken) (Nat.le_refl _) tidy.known (by simp [here, pending])
      (by simp [pending]) (fun sock holds => by rw [here]; exact holds) (by simp [here, Doomed]) ⟨batch, Nat.zero_le _⟩⟩
  | sent here all =>
    obtain ⟨settled, tidy⟩ : ∃ settled, Tidy trace { state with place := .looping } settled _ :=
      tidy.settle (.inl here) rfl rfl rfl (fun _ => rfl) nofun (fun _ _ => trivial) (.inl all)
    exact quiet tidy
  | give_up here unsent =>
    obtain ⟨settled, tidy⟩ : ∃ settled, Tidy trace { state with place := .close_socket _ } settled _ :=
      tidy.settle (.inl here) rfl rfl rfl (fun _ => rfl) nofun (fun _ _ => trivial) (.inr (.inl rfl))
    exact quiet tidy
  | attempt here unsent =>
    have held := tidy.batch
    rw [here] at held
    have undoomed : ∀ sock, ¬Doomed state.place sock := by simp [here, Doomed]
    refine quiet (tidy.move rfl (Nat.le_refl _) (fun sock => by rw [here]; rfl)
      (fun sock holds => tidy.held sock (by rw [here]; exact holds)) (fun sock found => ?_) held)
    obtain ⟨clean, known⟩ := tidy.unharmed undoomed found
    exact ⟨.inl clean, known⟩
  | failed here =>
    obtain ⟨settled, tidy⟩ : ∃ settled, Tidy trace { state with place := .close_socket _ } settled _ :=
      tidy.settle (.inr here) rfl rfl rfl (fun _ => rfl) nofun (fun _ _ => trivial) (.inr (.inl rfl))
    exact quiet tidy
  | wrote sent_now here positive fits => exact ⟨settlement, bound, tidy.write here fits⟩
  | @drop_socket sock here =>
    refine quiet (tidy.move rfl (Nat.le_refl _) (fun sock => by simp [here, pending]) nofun (fun other found => ?_) trivial)
    by_cases own : state.sock = some sock
    · rw [if_pos own] at found
      cases found
    · rw [if_neg own] at found
      obtain ⟨clean, known⟩ := tidy.current other found
      refine ⟨.inl (clean.resolve_right ?_), known⟩
      rintro (closing | finishing)
      · rw [here] at closing
        cases closing
        exact own found
      · rw [here] at finishing
        cases finishing
  | raised =>
    obtain ⟨settled, bound, tidy⟩ := tidy.raise
    exact quiet tidy
  | finish here =>
    exact quiet (tidy.move rfl (Nat.le_refl _) (fun sock => by simp [here, pending]) nofun nofun trivial)

theorem execution_tidy (run : Execution config trace state) : ∃ settlement bound, Tidy trace state settlement bound := by
  induction run with
  | start => exact ⟨_, 0, tidy_initial⟩
  | step run step ih =>
    obtain ⟨settlement, bound, tidy⟩ := ih
    exact tidy_step tidy step

/-! ### Streams -/

/-- The frames that a socket carries whole, in order. -/
def Settlement.frames (settlement : Settlement) (frames : List Bytes) (sock : Sock) : List Bytes :=
  (settlement.whole sock).map fun number => frames.getD number []

/-- What every socket has accepted is settled. -/
theorem written_settled (run : Execution config trace state) : ∃ settlement : Settlement,
    settlement.Fair (dequeued trace) (dequeued trace).length ∧
      ∀ sock, written trace sock = settlement.carried (dequeued trace) sock := by
  obtain ⟨settlement, bound, tidy⟩ := execution_tidy run
  have still : (∀ sock, pending state.place sock = []) → ∃ settlement : Settlement,
      settlement.Fair (dequeued trace) (dequeued trace).length ∧
        ∀ sock, written trace sock = settlement.carried (dequeued trace) sock := by
    intro nothing
    refine ⟨settlement, tidy.fair.mono tidy.known, fun sock => ?_⟩
    rw [tidy.written sock, nothing, List.append_nil]
  -- A batch that is being sent is settled as far as it went.
  have sending : ∀ sock batch sent_bytes, Holds state.place sock → batch = ((dequeued trace).drop bound).flatten →
      (∀ other, pending state.place other = if sock = other then batch.take sent_bytes else []) →
      ∃ settlement : Settlement, settlement.Fair (dequeued trace) (dequeued trace).length ∧
        ∀ sock, written trace sock = settlement.carried (dequeued trace) sock := by
    intro sock batch sent_bytes holds whole carrying
    obtain ⟨settled, fair, own, others, _⟩ := tidy.fair.settle tidy.known (tidy.held sock holds).1 sent_bytes
    refine ⟨settled, fair, fun other => ?_⟩
    rw [tidy.written other, carrying other]
    by_cases here : sock = other
    · subst here
      rw [if_pos rfl, own, whole]
    · rw [if_neg here, List.append_nil, Settlement.carried, Settlement.carried, (others other (Ne.symm here)).1,
        (others other (Ne.symm here)).2]
  have batch := tidy.batch
  cases here : state.place with
  | sending sock bytes sent_bytes =>
    rw [here] at batch
    exact sending sock bytes sent_bytes (by rw [here]; rfl) batch.1 (fun other => by rw [here]; rfl)
  | writing sock bytes sent_bytes =>
    rw [here] at batch
    exact sending sock bytes sent_bytes (by rw [here]; rfl) batch.1 (fun other => by rw [here]; rfl)
  | _ => exact still (by simp [here, pending])

/-- Frames leave the queue in the order in which they were captured. -/
theorem captured_split (run : Execution config trace state) : captured trace = dequeued trace ++ state.queue := by
  obtain ⟨_, _, tidy⟩ := execution_tidy run
  exact tidy.queue

/-- Only encoded frames are captured. -/
theorem captured_encoded (run : Execution config trace state) {frame : Bytes} (member : frame ∈ captured trace) :
    ∃ name dtype dimension vector, encode_vector_frame name dtype dimension vector = .ok frame := by
  induction run with
  | start => cases member
  | @step trace state event state' run step ih =>
    rw [captured, List.flatMap_append, List.mem_append] at member
    rcases member with earlier | now
    · exact ih earlier
    · cases step with
      | capture_vector encoded =>
        obtain rfl := List.mem_singleton.mp now
        exact ⟨_, _, _, _, encoded⟩
      | _ => cases now

end VectorSeam.SenderStreams
