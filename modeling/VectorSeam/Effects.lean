import VectorSeam.Programs
import VectorSeam.ObjectStore
import VectorSeam.Model

/-!
What a cohort round asks of its surroundings: the object store, the database
measurer and the cancellation token. Every request is logged with its answer. A list
may come in any order, any request may fail, a failed upload may have been stored or
not, and the body of an object may fail after the object was found.
-/

namespace VectorSeam.Effects
open VectorSeam.Programs VectorSeam.ObjectStore VectorSeam.Model

/-- One database sweep result for a successfully measured sample. -/
structure SampleSweepResult where
  ef : Int
  returned_keys : List Int
  «recall» : Float
  latency_ms : Float
deriving DecidableEq

/-- One complete, snapshot-consistent database measurement. -/
structure SampleMeasurement where
  gt_keys : List Int
  gt_distances : List Float
  ground_truth_latency_ms : Float
  sweeps : List SampleSweepResult
deriving DecidableEq

inductive SampleMeasureError where
  | Database (message : String)
  | Connection (message : String)
  | CancelledBeforeTransaction
  | TableSmallerThanK (returned k : Nat)
deriving DecidableEq

/-- The answer to a GET; the object may be found and its body still fail. -/
inductive GetReply (B : Type) where
  | found (body : B)
  | body_failed (message : String)
  | not_found
  | failed (message : String)

/-- The requests of a round; query vectors are the bit patterns of 32-bit floats. -/
inductive Effect (B : Type) where
  | list (lead : Path)
  | get (path : Path)
  | put (path : Path) (body : B)
  | measure_sample (vector : List UInt32) (config : AggregationConfig)
  | is_cancelled

variable {B : Type}

@[reducible] def Reply : Effect B → Type
  | .list _ => Except String (List Path)
  | .get _ => GetReply B
  | .put _ _ => Except String Unit
  | .measure_sample _ _ => Except SampleMeasureError SampleMeasurement
  | .is_cancelled => Bool

/-- A request together with its answer; `stored` tells whether an upload took place. -/
inductive Event (B : Type) where
  | listed (lead : Path) (reply : Except String (List Path))
  | got (path : Path) (reply : GetReply B)
  | uploaded (path : Path) (body : B) (reply : Except String Unit) (stored : Bool)
  | measured (vector : List UInt32) (config : AggregationConfig) (reply : Except SampleMeasureError SampleMeasurement)
  | polled (cancelled : Bool)

structure World (B : Type) where
  objects : Objects B
  log : List (Event B)

inductive Fetch where
  | intact
  | body_failed (message : String)
  | failed (message : String)

inductive Upload where
  | done
  | lost (message : String)
  | unacknowledged (message : String)

/-- What the surroundings decide at one request. -/
structure Choice where
  listed : Except String (List Path)
  fetch : Fetch
  upload : Upload
  measured : Except SampleMeasureError SampleMeasurement
  cancelled : Bool

/-- The world after an answered request that left the store as it was. -/
def World.record (world : World B) (event : Event B) : World B := { world with log := world.log ++ [event] }
/-- The world after an upload. -/
def World.upload (world : World B) (path : Path) (body : B) (reply : Except String Unit) (stored : Bool) : World B :=
  { objects := if stored then store world.objects path body else world.objects
    log := world.log ++ [.uploaded path body reply stored] }

def list_reply (objects : Objects B) (lead : Path) : Except String (List Path) → Except String (List Path)
  | .error message => .error message
  | .ok order => .ok (if order.isPerm (listing objects lead) then order else listing objects lead)

def get_reply (objects : Objects B) (path : Path) : Fetch → GetReply B
  | .failed message => .failed message
  | .body_failed message =>
    match lookup objects path with
    | none => .not_found
    | some _ => .body_failed message
  | .intact =>
    match lookup objects path with
    | none => .not_found
    | some body => .found body

/-- The answer to an upload, and whether it was stored. -/
def put_reply : Upload → Except String Unit × Bool
  | .done => (.ok (), true)
  | .lost message => (.error message, false)
  | .unacknowledged message => (.error message, true)

def answer (world : World B) (choice : Choice) : (effect : Effect B) → Reply effect × World B
  | .list lead =>
    (list_reply world.objects lead choice.listed, world.record (.listed lead (list_reply world.objects lead choice.listed)))
  | .get path =>
    (get_reply world.objects path choice.fetch, world.record (.got path (get_reply world.objects path choice.fetch)))
  | .put path body =>
    ((put_reply choice.upload).1, world.upload path body (put_reply choice.upload).1 (put_reply choice.upload).2)
  | .measure_sample vector config => (choice.measured, world.record (.measured vector config choice.measured))
  | .is_cancelled => (choice.cancelled, world.record (.polled choice.cancelled))

/-! ### Programs over these requests -/

abbrev Program (B ε α : Type) := Prog (Effect B) Reply ε α

section Requests
variable {ε : Type}

def list (lead : Path) : Program B ε (Except String (List Path)) := Prog.perform (Effect.list lead)
def get (path : Path) : Program B ε (GetReply B) := Prog.perform (Effect.get path)
def put (path : Path) (body : B) : Program B ε (Except String Unit) := Prog.perform (Effect.put path body)
def measure_sample (vector : List UInt32) (config : AggregationConfig) :
    Program B ε (Except SampleMeasureError SampleMeasurement) := Prog.perform (Effect.measure_sample vector config)
def is_cancelled : Program B ε Bool := Prog.perform Effect.is_cancelled

/-- The answers a store may give to a GET. -/
def Readable (objects : Objects B) (path : Path) : GetReply B → Prop
  | .found body => lookup objects path = some body
  | .body_failed _ => ∃ body, lookup objects path = some body
  | .not_found => lookup objects path = none
  | .failed _ => True

theorem readable_get_reply (objects : Objects B) (path : Path) (fetch : Fetch) :
    Readable objects path (get_reply objects path fetch) := by
  cases fetch with
  | failed message => trivial
  | body_failed message =>
    unfold get_reply
    cases found : lookup objects path with
    | none => exact found
    | some body => exact ⟨body, found⟩
  | intact =>
    unfold get_reply
    cases found : lookup objects path with
    | none => exact found
    | some body => exact found

variable {world world' : World B}

theorem runs_list {lead : Path} {outcome : Outcome ε (Except String (List Path))}
    (run : Runs answer (list lead) world outcome world') : outcome = .stopped ∧ world' = world ∨
      ∃ reply, outcome = .returned reply ∧ world' = world.record (.listed lead reply) ∧
        ∀ paths, reply = .ok paths → paths.Perm (listing world.objects lead) := by
  rcases runs_perform.mp run with stopped | ⟨choice, rfl, rfl⟩
  · exact .inl stopped
  · refine .inr ⟨list_reply world.objects lead choice.listed, rfl, rfl, fun paths same => ?_⟩
    cases order : choice.listed with
    | error message => rw [order] at same; cases same
    | ok proposed =>
      rw [order, list_reply] at same
      obtain rfl := Except.ok.inj same
      by_cases fits : proposed.isPerm (listing world.objects lead)
      · rw [if_pos fits]; exact List.isPerm_iff.mp fits
      · rw [if_neg fits]

theorem runs_get {path : Path} {outcome : Outcome ε (GetReply B)} :
    Runs answer (get path) world outcome world' ↔ outcome = .stopped ∧ world' = world ∨
      ∃ reply, Readable world.objects path reply ∧ outcome = .returned reply ∧
        world' = world.record (.got path reply) := by
  unfold get
  rw [runs_perform]
  refine or_congr Iff.rfl ⟨?_, ?_⟩
  · rintro ⟨choice, rfl, rfl⟩
    exact ⟨_, readable_get_reply world.objects path choice.fetch, rfl, rfl⟩
  · rintro ⟨reply, readable, rfl, rfl⟩
    have fetched : ∃ fetch, get_reply world.objects path fetch = reply := by
      cases reply with
      | found body => exact ⟨.intact, by rw [get_reply, show lookup world.objects path = some body from readable]⟩
      | body_failed message =>
        obtain ⟨body, found⟩ := readable
        exact ⟨.body_failed message, by rw [get_reply, found]⟩
      | not_found => exact ⟨.intact, by rw [get_reply, show lookup world.objects path = none from readable]⟩
      | failed message => exact ⟨.failed message, rfl⟩
    obtain ⟨fetch, rfl⟩ := fetched
    exact ⟨⟨.ok [], fetch, .done, .error .CancelledBeforeTransaction, false⟩, rfl, rfl⟩

theorem runs_put {path : Path} {body : B} {outcome : Outcome ε (Except String Unit)} :
    Runs answer (put path body) world outcome world' ↔ outcome = .stopped ∧ world' = world ∨
      ∃ reply stored, (reply = .ok () → stored = true) ∧ outcome = .returned reply ∧
        world' = world.upload path body reply stored := by
  unfold put
  rw [runs_perform]
  refine or_congr Iff.rfl ⟨?_, ?_⟩
  · rintro ⟨choice, rfl, rfl⟩
    refine ⟨(put_reply choice.upload).1, (put_reply choice.upload).2, fun accepted => ?_, rfl, rfl⟩
    cases upload : choice.upload with
    | done => rfl
    | lost message => rw [upload] at accepted; cases accepted
    | unacknowledged message => rfl
  · rintro ⟨reply, stored, kept, rfl, rfl⟩
    have uploaded : ∃ upload, put_reply upload = (reply, stored) := by
      cases reply with
      | ok done => exact ⟨.done, by rw [kept rfl]; rfl⟩
      | error message =>
        cases stored with
        | true => exact ⟨.unacknowledged message, rfl⟩
        | false => exact ⟨.lost message, rfl⟩
    obtain ⟨upload, same⟩ := uploaded
    refine ⟨⟨.ok [], .intact, upload, .error .CancelledBeforeTransaction, false⟩, ?_, ?_⟩
    · simp only [answer, same]
    · simp only [answer, same]

theorem runs_measure_sample {vector : List UInt32} {config : AggregationConfig}
    {outcome : Outcome ε (Except SampleMeasureError SampleMeasurement)} :
    Runs answer (measure_sample vector config) world outcome world' ↔ outcome = .stopped ∧ world' = world ∨
      ∃ reply, outcome = .returned reply ∧ world' = world.record (.measured vector config reply) := by
  unfold measure_sample
  rw [runs_perform]
  refine or_congr Iff.rfl ⟨?_, ?_⟩
  · rintro ⟨choice, rfl, rfl⟩
    exact ⟨choice.measured, rfl, rfl⟩
  · rintro ⟨reply, rfl, rfl⟩
    exact ⟨⟨.ok [], .intact, .done, reply, false⟩, rfl, rfl⟩

theorem runs_is_cancelled {outcome : Outcome ε Bool} :
    Runs answer is_cancelled world outcome world' ↔ outcome = .stopped ∧ world' = world ∨
      ∃ cancelled, outcome = .returned cancelled ∧ world' = world.record (.polled cancelled) := by
  unfold is_cancelled
  rw [runs_perform]
  refine or_congr Iff.rfl ⟨?_, ?_⟩
  · rintro ⟨choice, rfl, rfl⟩
    exact ⟨choice.cancelled, rfl, rfl⟩
  · rintro ⟨cancelled, rfl, rfl⟩
    exact ⟨⟨.ok [], .intact, .done, .error .CancelledBeforeTransaction, cancelled⟩, rfl, rfl⟩

end Requests

end VectorSeam.Effects
