import VectorSeam.ObjectStore
import VectorSeam.Tables

/-!
The recommendation client of the Python SDK. A Python string is a list of code points,
which may be surrogates; an exchange with the server is given by how it ends, and an
exception by its place among the classes that the client names. The parts
of `ef_search` between two accesses to the cache are definitions of their own, so that
calls of several threads can be taken apart there.
-/

namespace VectorSeam.SdkRecommendations
open VectorSeam.ObjectStore VectorSeam.Tables

/-! ### Python -/

abbrev PyStr := List (Fin 0x110000)

/-- The character of a code point; a surrogate has none. -/
def to_char (point : Fin 0x110000) : Option Char :=
  if valid : point.val.isValidChar then some (Char.ofNatAux point.val valid) else none

def encodable (text : PyStr) : Bool := text.all fun point => (to_char point).isSome

/-- The UTF-8 bytes of a string without surrogates. -/
def encode (text : PyStr) : Option (List UInt8) :=
  (text.mapM to_char).map fun chars => (String.ofList chars).toUTF8.data.toList

def is_safe (byte : UInt8) : Bool :=
  (65 ≤ byte && byte ≤ 90) || (97 ≤ byte && byte ≤ 122) || (48 ≤ byte && byte ≤ 57) || byte == 95 || byte == 46 || byte == 45 ||
    byte == 126 || byte == 47

/-- `urllib.parse.quote` with the slash safe. -/
def quote (text : PyStr) : Option String :=
  (encode text).map fun bytes =>
    String.ofList (bytes.flatMap fun byte => if is_safe byte then [Char.ofNat byte.toNat] else encode_byte byte)

def is_space (byte : UInt8) : Bool := byte == 32 || (9 ≤ byte && byte ≤ 13)
def is_digit (byte : UInt8) : Bool := 48 ≤ byte && byte ≤ 57

/-- Digits that may have single underscores between them. -/
def read_digits : Nat → List UInt8 → Option Nat
  | value, [] => some value
  | value, byte :: rest =>
    if is_digit byte then read_digits (10 * value + (byte.toNat - 48)) rest
    else if byte = 95 ∧ (rest.head?.any is_digit) then read_digits value rest
    else none

def read_natural (digits : List UInt8) : Option Nat := if digits.head?.any is_digit then read_digits 0 digits else none

/-- `int` of a bytes object. -/
def int_of_bytes (body : List UInt8) : Option Int :=
  match ((body.dropWhile is_space).reverse.dropWhile is_space).reverse with
  | 43 :: digits => (read_natural digits).map fun value => (value : Int)
  | 45 :: digits => (read_natural digits).map fun value => -(value : Int)
  | digits => (read_natural digits).map fun value => (value : Int)

/-! ### Exceptions -/

/-- The class of an exception, as far as the client and what it calls tell classes apart. -/
inductive PyClass where
  | BaseException
  | OSError
  | URLError
  | TimeoutError
  | ConnectionResetError
  | HTTPException
  | BadStatusLine
  | RemoteDisconnected
  | IncompleteRead
  | InvalidURL
  | ValueError
  | UnicodeError
  /-- Any other class, by the one that it is derived from. -/
  | Derived (name : String) (base : PyClass)
deriving DecidableEq

/-- A class with all that it is derived from. -/
def mro : PyClass → List PyClass
  | .BaseException => [.BaseException]
  | .OSError => [.OSError, .BaseException]
  | .URLError => [.URLError, .OSError, .BaseException]
  | .TimeoutError => [.TimeoutError, .OSError, .BaseException]
  | .ConnectionResetError => [.ConnectionResetError, .OSError, .BaseException]
  | .HTTPException => [.HTTPException, .BaseException]
  | .BadStatusLine => [.BadStatusLine, .HTTPException, .BaseException]
  | .RemoteDisconnected => [.RemoteDisconnected, .ConnectionResetError, .OSError, .BadStatusLine, .HTTPException, .BaseException]
  | .IncompleteRead => [.IncompleteRead, .HTTPException, .BaseException]
  | .InvalidURL => [.InvalidURL, .HTTPException, .BaseException]
  | .ValueError => [.ValueError, .BaseException]
  | .UnicodeError => [.UnicodeError, .ValueError, .BaseException]
  | .Derived name base => .Derived name base :: mro base

/-- Whether an except clause for these classes catches an exception. -/
def catches (classes : List PyClass) (exception : PyClass) : Bool := (mro exception).any (· ∈ classes)

/-- Whether an exception is an `OSError`. -/
def is_os_error (exception : PyClass) : Bool := decide (.OSError ∈ mro exception)

/-- The clause of a fetch catches these and no others. -/
theorem catches_os_errors (exception : PyClass) :
    catches [.URLError, .OSError, .TimeoutError] exception = is_os_error exception := by
  induction exception with
  | Derived name base ih =>
    have derived : catches [.URLError, .OSError, .TimeoutError] (.Derived name base) =
        catches [.URLError, .OSError, .TimeoutError] base := by simp [catches, mro]
    rw [derived, ih]
    simp [is_os_error, mro]
  | _ => rfl

/-! ### The client -/

def MIN_EF_SEARCH : Int := 1
def MAX_EF_SEARCH : Int := 1000
def BAD_REQUEST : Nat := 400

structure RecommendationClient where
  base_url : String
  default_ef_search : Int
  ttl_seconds : Float
  timeout_seconds : Float
  max_cohorts : Int

/-- The constructor, with the text of its `ValueError`. -/
def new (host : String) (port default_ef_search : Int) (ttl_seconds timeout_seconds : Float) (max_cohorts : Int) :
    Except String RecommendationClient :=
  if host = "" then .error "host must be non-empty"
  else if ¬(1 ≤ port ∧ port ≤ 65535) then .error "port must be between 1 and 65535"
  else if ¬(MIN_EF_SEARCH ≤ default_ef_search ∧ default_ef_search ≤ MAX_EF_SEARCH) then
    .error ("default_ef_search must be between " ++ toString MIN_EF_SEARCH ++ " and " ++ toString MAX_EF_SEARCH)
  else if ttl_seconds < 0.0 then .error "ttl_seconds must not be negative"
  else if timeout_seconds ≤ 0.0 then .error "timeout_seconds must be positive"
  else if max_cohorts < 1 then .error "max_cohorts must be at least 1"
  else .ok {
    base_url := "http://" ++ host ++ ":" ++ toString port ++ "/v1/ef-search/"
    default_ef_search, ttl_seconds, timeout_seconds, max_cohorts }

/-- What a call raises. -/
inductive Raised where
  | ValueError (cohort : PyStr)
  | UnicodeEncodeError
  /-- An exception from the exchange that is not caught. -/
  | Escaped (exception : PyClass)
deriving DecidableEq

/-- How an exchange ends: with a status after redirects and a readable body, or with an exception
    from opening the URL or reading the body. An `HTTPError` is an answer with its status. -/
inductive Exchange where
  | Answered (status : Nat) (body : List UInt8)
  | Raised (exception : PyClass)
deriving DecidableEq

/-- The value of a body, if it is usable. -/
def usable_body (body : List UInt8) : Option Int :=
  (int_of_bytes (body.take 32)).filter fun ef_search => MIN_EF_SEARCH ≤ ef_search ∧ ef_search ≤ MAX_EF_SEARCH

/-- What is sent to the server. -/
structure Request where
  url : String
  timeout : Float

/-- There is no URL for a cohort that cannot be encoded. -/
def request (client : RecommendationClient) (cohort : PyStr) : Option Request :=
  (quote cohort).map fun path => { url := client.base_url ++ path, timeout := client.timeout_seconds }

/-- Reads one recommendation. -/
def fetch (cohort : PyStr) (exchange : Exchange) : Except Raised (Option Int) :=
  match quote cohort with
  | none => .error .UnicodeEncodeError
  | some _ =>
    match exchange with
    | .Answered status body =>
      if 200 ≤ status ∧ status < 300 then .ok (usable_body body)
      else if status = BAD_REQUEST then .error (.ValueError cohort)
      else .ok none
    | .Raised exception =>
      if catches [.URLError, .OSError, .TimeoutError] exception then .ok none else .error (.Escaped exception)

abbrev Entry := Int × Float
abbrev Cache := Table PyStr Entry

def len (cache : Cache) : Int := cache.entries.length

/-- What follows the look into the cache. -/
inductive Looked where
  | Fresh (ef_search : Int)
  | Stale (ef_search : Int)
  | Missing
deriving DecidableEq

def look (cached : Option Entry) (now : Float) : Looked :=
  match cached with
  | some (ef_search, expiry) => if now < expiry then .Fresh ef_search else .Stale ef_search
  | none => .Missing

section Client
variable (client : RecommendationClient)

/-- Whether a cohort that is not cached is turned away. -/
def full (cache : Cache) : Bool := decide (client.max_cohorts ≤ len cache)

/-- The entry for a fetched value. -/
def renewed (fallback : Int) (now : Float) (fetched : Option Int) : Entry :=
  (fetched.getD fallback, now + client.ttl_seconds)

/-- A call, with what the clock and the server have for it. -/
structure Call where
  cohort : PyStr
  now : Float
  exchange : Exchange

/-- The end of a call. -/
structure Finished where
  result : Except Raised Int
  cache : Cache
  request : Option Request

def refresh (cache : Cache) (call : Call) (fallback : Int) : Finished :=
  match fetch call.cohort call.exchange with
  | .error raised => { result := .error raised, cache, request := request client call.cohort }
  | .ok fetched =>
    let entry := renewed client fallback call.now fetched
    { result := .ok entry.1, cache := cache.insert call.cohort entry, request := request client call.cohort }

/-- A call that no other one interrupts. -/
def ef_search (cache : Cache) (call : Call) : Finished :=
  match look (cache.lookup call.cohort) call.now with
  | .Fresh ef_search => { result := .ok ef_search, cache, request := none }
  | .Stale ef_search => refresh client cache call ef_search
  | .Missing =>
    if full client cache then { result := .ok client.default_ef_search, cache, request := none }
    else refresh client cache call client.default_ef_search

end Client

/-! ### What the constructor and a fetch guarantee -/

theorem new_ok {host : String} {port default_ef_search max_cohorts : Int} {ttl_seconds timeout_seconds : Float}
    {client : RecommendationClient}
    (made : new host port default_ef_search ttl_seconds timeout_seconds max_cohorts = .ok client) :
    (MIN_EF_SEARCH ≤ client.default_ef_search ∧ client.default_ef_search ≤ MAX_EF_SEARCH) ∧ 1 ≤ client.max_cohorts := by
  unfold new at made
  split_ifs at made with _ _ _ _ _ few
  obtain rfl := Except.ok.inj made
  exact ⟨by simpa using ‹_›, by simpa using few⟩

theorem quote_isSome (text : PyStr) : (quote text).isSome = encodable text := by
  have points : (text.mapM to_char).isSome = encodable text := by
    induction text with
    | nil => rfl
    | cons point rest inductionHypothesis =>
      rw [encodable, List.all_cons, ← encodable, ← inductionHypothesis, List.mapM_cons]
      cases to_char point with
      | none => rfl
      | some char => cases rest.mapM to_char <;> rfl
  rw [quote, encode, Option.isSome_map, Option.isSome_map, points]

theorem usable_body_range {body : List UInt8} {ef_search : Int} (usable : usable_body body = some ef_search) :
    MIN_EF_SEARCH ≤ ef_search ∧ ef_search ≤ MAX_EF_SEARCH := by
  obtain ⟨_, range⟩ := Option.filter_eq_some_iff.mp usable
  simpa using range

example : int_of_bytes " +6_0\n".toUTF8.data.toList = some 60 := by decide
example : quote [97, 47, 32, 0xE9] = some "a/%20%C3%A9" := by decide

end VectorSeam.SdkRecommendations
