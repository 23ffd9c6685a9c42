import VectorSeam.Database

/-!
The servers of the data sources, and why a connection to one fails. Startup validation compares server and database as texts,
the connection parses the server first; two texts can name one endpoint.
-/

namespace VectorSeam.Endpoints
open VectorSeam.Model VectorSeam.Text VectorSeam.Configuration VectorSeam.Durations VectorSeam.Database VectorSeam.Pacer

/-- Splits at the last separator. -/
def rsplit_once (separator : Char) (text : String) : Option (String × String) :=
  let backwards := text.toList.reverse
  if separator ∈ backwards then
    some (String.ofList (backwards.dropWhile (· ≠ separator)).tail.reverse,
      String.ofList (backwards.takeWhile (· ≠ separator)).reverse)
  else none

inductive DatabaseConnectionError where
  | InvalidServer (server : String)
  | MissingPasswordEnvironment (name : String)
  | NonUnicodePasswordEnvironment (name : String)
  | Pacer (error : PacerError)
  | Connect (error : PostgresError)
  | ConnectTimeout (timeout : Duration)
  | Driver (error : PostgresError)
  | DriverTask (message : String)
deriving DecidableEq

/-- The host without one pair of brackets around it. -/
def strip_brackets (host : String) : String := ((strip_start "[" host).bind (strip_end "]")).getD host

def parse_server (server : String) : Except DatabaseConnectionError (String × Nat) :=
  match rsplit_once ':' server with
  | none => .error (.InvalidServer server)
  | some (host, port) =>
    let host := strip_brackets host
    match parse_unsigned (2 ^ 16) port with
    | none => .error (.InvalidServer server)
    | some port => if host = "" then .error (.InvalidServer server) else .ok (host, port)

example : parse_server "localhost:5432" = .ok ("localhost", 5432) := by decide
example : parse_server "[::1]:5433" = .ok ("::1", 5433) := by decide

/-! ### Spellings -/

def Bracketed (host : String) : Prop := ∃ inner, host = "[" ++ inner ++ "]"

/-- The hosts are spelled the same, or one is the other in brackets. -/
def SameHost (left right : String) : Prop :=
  left = right ∨ (left = "[" ++ right ++ "]" ∧ ¬Bracketed right) ∨ (right = "[" ++ left ++ "]" ∧ ¬Bracketed left)

def drop_sign (port : String) : List Char :=
  match port.toList with
  | '+' :: rest => rest
  | all => all
/-- The digits of a port after a leading plus sign and leading zeros. -/
def significant (port : String) : List Char := (drop_sign port).dropWhile (· = '0')

/-- The servers differ in no more than brackets around the host, and a sign and zeros before the port. -/
def Alike (left right : String) : Prop :=
  ∃ left_host left_port right_host right_port, left = left_host ++ ":" ++ left_port ∧
    right = right_host ++ ":" ++ right_port ∧ ':' ∉ left_port.toList ∧ ':' ∉ right_port.toList ∧
    SameHost left_host right_host ∧ significant left_port = significant right_port

/-! ### Digits -/

/-- The number that a digit stands for. -/
private theorem digit_bounds {digit : Char} (decimal : digit.isDigit) : '0'.toNat ≤ digit.toNat ∧ digit.toNat - '0'.toNat < 10 := by
  obtain ⟨above, below⟩ := Char.isDigit_iff_toNat.mp decimal
  have nine : '9'.toNat = '0'.toNat + 9 := rfl
  exact ⟨above, by omega⟩

private theorem ofDigitChars_cons_zero (digit : Char) (rest : List Char) :
    Nat.ofDigitChars 10 (digit :: rest) 0 = 10 ^ rest.length * (digit.toNat - '0'.toNat) + Nat.ofDigitChars 10 rest 0 := by
  rw [Nat.ofDigitChars_cons, Nat.mul_zero, Nat.zero_add, Nat.ofDigitChars_eq_ofDigitChars_zero]

theorem digits_lt {digits : List Char} (decimal : ∀ digit ∈ digits, digit.isDigit) :
    Nat.ofDigitChars 10 digits 0 < 10 ^ digits.length := by
  induction digits with
  | nil => decide
  | cons digit rest ih =>
    have value := (digit_bounds (decimal digit List.mem_cons_self)).2
    have later := ih fun other member => decimal other (List.mem_cons_of_mem _ member)
    have scaled := Nat.mul_le_mul_left (10 ^ rest.length) (Nat.le_of_lt_succ value)
    rw [ofDigitChars_cons_zero, List.length_cons, Nat.pow_succ]
    omega

/-- Digits of one length are determined by their value. -/
theorem digits_eq_of_length {left right : List Char} (decimalLeft : ∀ digit ∈ left, digit.isDigit)
    (decimalRight : ∀ digit ∈ right, digit.isDigit) (long : left.length = right.length)
    (same : Nat.ofDigitChars 10 left 0 = Nat.ofDigitChars 10 right 0) : left = right := by
  induction left generalizing right with
  | nil => exact (List.eq_nil_of_length_eq_zero long.symm).symm
  | cons first rest ih =>
    cases right with
    | nil => cases long
    | cons other others =>
      have lengths : rest.length = others.length := Nat.succ.inj long
      have decimalRest := fun digit member => decimalLeft digit (List.mem_cons_of_mem _ member)
      have decimalOthers := fun digit member => decimalRight digit (List.mem_cons_of_mem _ member)
      rw [ofDigitChars_cons_zero, ofDigitChars_cons_zero, ← lengths] at same
      have small := digits_lt decimalRest
      have small' := digits_lt decimalOthers
      rw [← lengths] at small'
      have power : 0 < 10 ^ rest.length := Nat.pow_pos (by decide)
      have quotients := congrArg (· / 10 ^ rest.length) same
      simp only [Nat.mul_add_div power, Nat.div_eq_of_lt small, Nat.div_eq_of_lt small', Nat.add_zero] at quotients
      obtain ⟨above, _⟩ := digit_bounds (decimalLeft first List.mem_cons_self)
      obtain ⟨above', _⟩ := digit_bounds (decimalRight other List.mem_cons_self)
      have heads : first = other := Char.toNat_inj.mp (by omega)
      rw [quotients] at same
      rw [heads, ih decimalRest decimalOthers lengths (by omega)]

/-- Digits without leading zeros that are no longer than others of the same value are as long. -/
private theorem digits_length_le {left right : List Char} (decimalLeft : ∀ digit ∈ left, digit.isDigit)
    (decimalRight : ∀ digit ∈ right, digit.isDigit) (leading : right.head? ≠ some '0')
    (same : Nat.ofDigitChars 10 left 0 = Nat.ofDigitChars 10 right 0) : right.length ≤ left.length := by
  cases right with
  | nil => exact Nat.zero_le _
  | cons first rest =>
    have large : 10 ^ rest.length ≤ Nat.ofDigitChars 10 (first :: rest) 0 := by
      obtain ⟨above, _⟩ := digit_bounds (decimalRight first List.mem_cons_self)
      have nonzero : first.toNat ≠ '0'.toNat := fun zero => leading (by rw [Char.toNat_inj.mp zero]; rfl)
      have scaled := Nat.mul_le_mul_left (10 ^ rest.length) (show 1 ≤ first.toNat - '0'.toNat by omega)
      rw [ofDigitChars_cons_zero]
      omega
    have small := digits_lt decimalLeft
    rw [same] at small
    exact (Nat.pow_lt_pow_iff_right (by decide)).mp (lt_of_le_of_lt large small)

theorem digits_eq {left right : List Char} (decimalLeft : ∀ digit ∈ left, digit.isDigit)
    (decimalRight : ∀ digit ∈ right, digit.isDigit) (leadingLeft : left.head? ≠ some '0') (leadingRight : right.head? ≠ some '0')
    (same : Nat.ofDigitChars 10 left 0 = Nat.ofDigitChars 10 right 0) : left = right :=
  digits_eq_of_length decimalLeft decimalRight
    (le_antisymm (digits_length_le decimalRight decimalLeft leadingLeft same.symm)
      (digits_length_le decimalLeft decimalRight leadingRight same)) same

theorem ofDigitChars_dropWhile (digits : List Char) :
    Nat.ofDigitChars 10 (digits.dropWhile (· = '0')) 0 = Nat.ofDigitChars 10 digits 0 := by
  induction digits with
  | nil => rfl
  | cons digit rest ih =>
    by_cases zero : digit = '0'
    · subst zero
      rw [List.dropWhile_cons_of_pos (by simp), ih, ofDigitChars_cons_zero, Nat.sub_self, Nat.mul_zero, Nat.zero_add]
    · rw [List.dropWhile_cons_of_neg (by simpa using zero)]

private theorem parse_unsigned_digits (bound : Nat) (text : String) :
    parse_unsigned bound text = (parse_digits (drop_sign text)).filter (· < bound) := rfl

/-- Two accepted port texts are one number when they have the same significant digits. -/
theorem parse_unsigned_eq_iff {bound : Nat} {left right : String} {first second : Nat}
    (foundLeft : parse_unsigned bound left = some first) (foundRight : parse_unsigned bound right = some second) :
    first = second ↔ significant left = significant right := by
  have reading : ∀ {text : String} {value : Nat}, parse_unsigned bound text = some value →
      (∀ digit ∈ significant text, digit.isDigit) ∧ Nat.ofDigitChars 10 (significant text) 0 = value := by
    intro text value found
    rw [parse_unsigned_digits] at found
    obtain ⟨parsed, _⟩ := Option.filter_eq_some_iff.mp found
    unfold parse_digits at parsed
    by_cases decimal : drop_sign text ≠ [] ∧ (drop_sign text).all Char.isDigit = true
    · rw [if_pos decimal] at parsed
      rw [significant, ofDigitChars_dropWhile]
      exact ⟨fun digit member => List.all_eq_true.mp decimal.2 digit ((List.dropWhile_sublist _).subset member),
        Option.some.inj parsed⟩
    · rw [if_neg decimal] at parsed
      cases parsed
  have leading : ∀ text, (significant text).head? ≠ some '0' := by
    intro text zero
    have remaining := List.head?_dropWhile_not (fun digit => decide (digit = '0')) (drop_sign text)
    rw [← significant, zero] at remaining
    simp at remaining
  obtain ⟨decimalLeft, rfl⟩ := reading foundLeft
  obtain ⟨decimalRight, rfl⟩ := reading foundRight
  constructor
  · exact digits_eq decimalLeft decimalRight (leading left) (leading right)
  · intro same
    rw [same]

/-! ### Hosts -/

theorem rsplit_once_some {separator : Char} {text first last : String} (found : rsplit_once separator text = some (first, last)) :
    text = first ++ String.singleton separator ++ last ∧ separator ∉ last.toList := by
  unfold rsplit_once at found
  by_cases present : separator ∈ text.toList.reverse
  · simp only [if_pos present, Option.some.injEq, Prod.mk.injEq] at found
    obtain ⟨rfl, rfl⟩ := found
    have rest : text.toList.reverse.dropWhile (· ≠ separator) =
        separator :: (text.toList.reverse.dropWhile (· ≠ separator)).tail := by
      cases shape : text.toList.reverse.dropWhile (· ≠ separator) with
      | nil =>
        have none := List.dropWhile_eq_nil_iff.mp shape separator present
        simp at none
      | cons head others =>
        have stopped := List.head?_dropWhile_not (fun char => decide (char ≠ separator)) text.toList.reverse
        rw [shape] at stopped
        have same : head = separator := by simpa using stopped
        rw [same]
        rfl
    refine ⟨?_, ?_⟩
    · apply String.toList_inj.mp
      have whole := List.takeWhile_append_dropWhile (p := (· ≠ separator)) (l := text.toList.reverse)
      rw [rest] at whole
      have forwards := congrArg List.reverse whole
      rw [List.reverse_reverse] at forwards
      refine forwards.symm.trans ?_
      simp [String.toList_append]
    · intro member
      rw [String.toList_ofList, List.mem_reverse] at member
      have other := List.mem_takeWhile_imp member
      simp at other
  · simp only [if_neg present] at found
    cases found

theorem rsplit_once_append {separator : Char} {first last : String} (absent : separator ∉ last.toList) :
    rsplit_once separator (first ++ String.singleton separator ++ last) = some (first, last) := by
  have backwards : (first ++ String.singleton separator ++ last).toList.reverse =
      last.toList.reverse ++ separator :: first.toList.reverse := by
    simp [String.toList_append]
  have others : ∀ char ∈ last.toList.reverse, decide (char ≠ separator) = true := by
    intro char member
    have inside := List.mem_reverse.mp member
    simp only [ne_eq, decide_not, Bool.not_eq_true', decide_eq_false_iff_not]
    rintro rfl
    exact absent inside
  rw [rsplit_once]
  simp only [backwards]
  rw [if_pos (by simp), List.dropWhile_append_of_pos others, List.takeWhile_append_of_pos others]
  simp

/-- A text is split at its last colon in one way. -/
theorem split_unique {first last first' last' : String} (same : first ++ ":" ++ last = first' ++ ":" ++ last')
    (absent : ':' ∉ last.toList) (absent' : ':' ∉ last'.toList) : first = first' ∧ last = last' := by
  have cut : rsplit_once ':' (first ++ ":" ++ last) = some (first, last) := rsplit_once_append absent
  have cut' : rsplit_once ':' (first' ++ ":" ++ last') = some (first', last') := rsplit_once_append absent'
  rw [same, cut'] at cut
  obtain ⟨rfl, rfl⟩ := Prod.mk.inj (Option.some.inj cut)
  exact ⟨rfl, rfl⟩

theorem strip_brackets_bracketed (inner : String) : strip_brackets ("[" ++ inner ++ "]") = inner := by
  rw [strip_brackets, String.append_assoc, strip_start_append, Option.bind_some, strip_end_append]
  rfl

theorem strip_brackets_bare {host : String} (bare : ¬Bracketed host) : strip_brackets host = host := by
  unfold strip_brackets
  cases opened : strip_start "[" host with
  | none => rfl
  | some rest =>
    cases closed : strip_end "]" rest with
    | none => rw [Option.bind_some, closed]; rfl
    | some inner =>
      refine absurd ⟨inner, ?_⟩ bare
      rw [strip_start_iff.mp opened, strip_end_iff.mp closed, String.append_assoc]

theorem strip_brackets_eq_iff {left right : String} : strip_brackets left = strip_brackets right ↔ SameHost left right := by
  have injective : ∀ {a b : String}, "[" ++ a ++ "]" = "[" ++ b ++ "]" → a = b := by
    intro a b same
    rw [← strip_brackets_bracketed a, same, strip_brackets_bracketed]
  by_cases bracketedLeft : Bracketed left
  · obtain ⟨a, rfl⟩ := bracketedLeft
    by_cases bracketedRight : Bracketed right
    · obtain ⟨b, rfl⟩ := bracketedRight
      rw [strip_brackets_bracketed, strip_brackets_bracketed]
      constructor
      · rintro rfl
        exact .inl rfl
      · rintro (same | ⟨_, bare⟩ | ⟨_, bare⟩)
        · exact injective same
        · exact absurd ⟨b, rfl⟩ bare
        · exact absurd ⟨a, rfl⟩ bare
    · rw [strip_brackets_bracketed, strip_brackets_bare bracketedRight]
      constructor
      · rintro rfl
        exact .inr (.inl ⟨rfl, bracketedRight⟩)
      · rintro (rfl | ⟨same, _⟩ | ⟨_, bare⟩)
        · exact absurd ⟨a, rfl⟩ bracketedRight
        · exact injective same
        · exact absurd ⟨a, rfl⟩ bare
  · by_cases bracketedRight : Bracketed right
    · obtain ⟨b, rfl⟩ := bracketedRight
      rw [strip_brackets_bracketed, strip_brackets_bare bracketedLeft]
      constructor
      · rintro rfl
        exact .inr (.inr ⟨rfl, bracketedLeft⟩)
      · rintro (rfl | ⟨_, bare⟩ | ⟨same, _⟩)
        · exact absurd ⟨b, rfl⟩ bracketedLeft
        · exact absurd ⟨b, rfl⟩ bare
        · exact (injective same).symm
    · rw [strip_brackets_bare bracketedLeft, strip_brackets_bare bracketedRight]
      constructor
      · exact .inl
      · rintro (same | ⟨rfl, _⟩ | ⟨rfl, _⟩)
        · exact same
        · exact absurd ⟨right, rfl⟩ bracketedLeft
        · exact absurd ⟨left, rfl⟩ bracketedRight

/-! ### Servers -/

theorem parse_server_ok {server host : String} {port : Nat} (parsed : parse_server server = .ok (host, port)) :
    ∃ host_text port_text, server = host_text ++ ":" ++ port_text ∧ ':' ∉ port_text.toList ∧
      host = strip_brackets host_text ∧ parse_unsigned (2 ^ 16) port_text = some port := by
  unfold parse_server at parsed
  cases cut : rsplit_once ':' server with
  | none => rw [cut] at parsed; cases parsed
  | some pieces =>
    obtain ⟨host_text, port_text⟩ := pieces
    obtain ⟨same, absent⟩ := rsplit_once_some cut
    rw [cut] at parsed
    dsimp only at parsed
    cases read : parse_unsigned (2 ^ 16) port_text with
    | none => rw [read] at parsed; cases parsed
    | some value =>
      rw [read] at parsed
      dsimp only at parsed
      by_cases empty : strip_brackets host_text = ""
      · rw [if_pos empty] at parsed
        cases parsed
      · rw [if_neg empty] at parsed
        cases parsed
        exact ⟨host_text, port_text, same, absent, rfl, read⟩

/-- Servers that parse are one endpoint when they are spelled alike. -/
theorem parse_server_eq_iff {left right : String} {first second : String × Nat} (parsedLeft : parse_server left = .ok first)
    (parsedRight : parse_server right = .ok second) : first = second ↔ Alike left right := by
  obtain ⟨left_host, left_port, rfl, absentLeft, hostLeft, portLeft⟩ := parse_server_ok parsedLeft
  obtain ⟨right_host, right_port, rfl, absentRight, hostRight, portRight⟩ := parse_server_ok parsedRight
  rw [Prod.ext_iff, hostLeft, hostRight, strip_brackets_eq_iff, parse_unsigned_eq_iff portLeft portRight]
  constructor
  · rintro ⟨hosts, ports⟩
    exact ⟨left_host, left_port, right_host, right_port, rfl, rfl, absentLeft, absentRight, hosts, ports⟩
  · rintro ⟨_, _, _, _, sameLeft, sameRight, absentLeft', absentRight', hosts, ports⟩
    obtain ⟨rfl, rfl⟩ := split_unique sameLeft absentLeft absentLeft'
    obtain ⟨rfl, rfl⟩ := split_unique sameRight absentRight absentRight'
    exact ⟨hosts, ports⟩

/-! ### Configurations -/

variable {debug : String → String} {password_env_exists : String → Bool} {raw : RawConfig} {config : Config}

/-- Passed data sources have pairwise different pairs, none of which was seen before. -/
theorem validate_data_source_pairs_ok {pairs : List ((String × String) × String)}
    {data_sources : List (String × RawDataSourceConfig)}
    (passed : validate_data_source_pairs debug password_env_exists pairs data_sources = .ok ()) :
    (data_sources.map fun entry => (entry.2.server, entry.2.database)).Nodup ∧
      ∀ entry ∈ data_sources, pairs.lookup (entry.2.server, entry.2.database) = none := by
  induction data_sources generalizing pairs with
  | nil => exact ⟨List.nodup_nil, fun entry member => absurd member List.not_mem_nil⟩
  | cons entry rest ih =>
    obtain ⟨name, data_source⟩ := entry
    unfold validate_data_source_pairs at passed
    obtain ⟨_, passed⟩ := Results.check_ok.mp passed
    obtain ⟨_, passed⟩ := Results.check_ok.mp passed
    obtain ⟨_, passed⟩ := Results.check_ok.mp passed
    cases seen : pairs.lookup (data_source.server, data_source.database) with
    | some existing => simp only [seen] at passed; cases passed
    | none =>
      simp only [seen] at passed
      obtain ⟨distinct, unseen⟩ := ih passed
      have apart : ∀ other ∈ rest, (other.2.server, other.2.database) ≠ (data_source.server, data_source.database) ∧
          pairs.lookup (other.2.server, other.2.database) = none := by
        intro other member
        have fresh := unseen other member
        rw [List.lookup_cons] at fresh
        by_cases same : (other.2.server, other.2.database) = (data_source.server, data_source.database)
        · simp [same] at fresh
        · have differs : ((other.2.server, other.2.database) == (data_source.server, data_source.database)) = false :=
            beq_false_of_ne same
          rw [differs] at fresh
          exact ⟨same, fresh⟩
      refine ⟨List.nodup_cons.mpr ⟨fun repeated => ?_, distinct⟩, ?_⟩
      · obtain ⟨other, member, same⟩ := List.mem_map.mp repeated
        exact (apart other member).1 same
      · intro other member
        rcases List.mem_cons.mp member with rfl | later
        · exact seen
        · exact (apart other later).2

/-- No two data sources have the same server and database text. -/
theorem pairs_differ (accepted : Accepted debug password_env_exists raw config) {left right : String}
    {first second : DataSourceConfig} (different : left ≠ right) (foundLeft : config.data_sources[left]? = some first)
    (foundRight : config.data_sources[right]? = some second) (same : first.database = second.database) :
    first.server ≠ second.server := by
  rw [accepted.data_sources, Option.map_eq_some_iff] at foundLeft foundRight
  obtain ⟨rawFirst, rawLeft, rfl⟩ := foundLeft
  obtain ⟨rawSecond, rawRight, rfl⟩ := foundRight
  have memberLeft := Std.ExtTreeMap.mem_toList_iff_getElem?_eq_some.mpr rawLeft
  have memberRight := Std.ExtTreeMap.mem_toList_iff_getElem?_eq_some.mpr rawRight
  intro servers
  have distinct := (validate_data_source_pairs_ok accepted.sources_checked).1
  have one := List.inj_on_of_nodup_map distinct memberLeft memberRight (Prod.ext servers same)
  exact different (congrArg Prod.fst one)

/-- Data sources whose servers parse lead to different databases or endpoints. -/
def OneConnection (config : Config) : Prop :=
  ∀ (left right : String) (first second : DataSourceConfig) (endpoint endpoint' : String × Nat), left ≠ right →
    config.data_sources[left]? = some first → config.data_sources[right]? = some second →
    parse_server first.server = .ok endpoint → parse_server second.server = .ok endpoint' →
    (endpoint, first.database) ≠ (endpoint', second.database)

/-- Two data sources have the same database and different texts of servers that are spelled alike. -/
def Respelled (config : Config) : Prop :=
  ∃ (left right : String) (first second : DataSourceConfig), left ≠ right ∧ config.data_sources[left]? = some first ∧
    config.data_sources[right]? = some second ∧ (∃ endpoint, parse_server first.server = .ok endpoint) ∧
    (∃ endpoint, parse_server second.server = .ok endpoint) ∧ first.database = second.database ∧
    first.server ≠ second.server ∧ Alike first.server second.server

theorem one_connection_iff (debug : String → String) (password_env_exists : String → Bool) (raw : RawConfig)
    (config : Config) (accepted : from_raw debug password_env_exists raw = .ok config) :
    OneConnection config ↔ ¬Respelled config := by
  have passed := from_raw_ok accepted
  constructor
  · rintro one ⟨left, right, first, second, different, foundLeft, foundRight, ⟨endpoint, parsed⟩, ⟨endpoint', parsed'⟩,
      same, _, alike⟩
    refine one left right first second endpoint endpoint' different foundLeft foundRight parsed parsed' ?_
    rw [(parse_server_eq_iff parsed parsed').mpr alike, same]
  · intro distinct left right first second endpoint endpoint' different foundLeft foundRight parsed parsed' equal
    obtain ⟨endpoints, same⟩ := Prod.mk.inj equal
    exact distinct ⟨left, right, first, second, different, foundLeft, foundRight, ⟨endpoint, parsed⟩, ⟨endpoint', parsed'⟩,
      same, pairs_differ passed different foundLeft foundRight same, (parse_server_eq_iff parsed parsed').mp endpoints⟩

/-- The two data sources have one database behind different ports. -/
theorem twin_servers : ∃ config, from_raw id (fun _ => true) twinRaw = .ok config ∧
    config.data_sources.toList.map (fun entry => (entry.1, entry.2.server)) =
      [("primary", "localhost:5432"), ("replica", "localhost:5433")] := ⟨_, rfl, by decide⟩

theorem local_one_connection : ∃ config, from_raw id (fun _ => true) twinRaw = .ok config ∧
    config.data_sources.toList.map Prod.fst = ["primary", "replica"] ∧ OneConnection config := by
  obtain ⟨config, accepted, servers⟩ := twin_servers
  have server_of : ∀ {name : String} {data_source : DataSourceConfig}, config.data_sources[name]? = some data_source →
      data_source.server = "localhost:5432" ∨ data_source.server = "localhost:5433" := by
    intro name data_source found
    have listed := List.mem_map_of_mem (f := fun entry => (entry.1, entry.2.server))
      (Std.ExtTreeMap.mem_toList_iff_getElem?_eq_some.mpr found)
    rw [servers] at listed
    simp only [List.mem_cons, Prod.mk.injEq, List.not_mem_nil, or_false] at listed
    exact listed.imp And.right And.right
  have names := congrArg (List.map Prod.fst) servers
  rw [List.map_map] at names
  refine ⟨config, accepted, names, (one_connection_iff id (fun _ => true) twinRaw config accepted).mpr ?_⟩
  rintro ⟨left, right, first, second, _, foundLeft, foundRight, ⟨endpoint, parsed⟩, ⟨endpoint', parsed'⟩, _, unlike, alike⟩
  have same := (parse_server_eq_iff parsed parsed').mpr alike
  rcases server_of foundLeft with here | here
  · rcases server_of foundRight with there | there
    · exact unlike (here.trans there.symm)
    · rw [here] at parsed
      rw [there, ← same] at parsed'
      cases (Except.ok.inj (parsed.symm.trans rfl) : endpoint = ("localhost", 5432))
      cases parsed'
  · rcases server_of foundRight with there | there
    · rw [here] at parsed
      rw [there, ← same] at parsed'
      cases (Except.ok.inj (parsed.symm.trans rfl) : endpoint = ("localhost", 5433))
      cases parsed'
    · exact unlike (here.trans there.symm)

/-- A second data source on the same database, its port with a leading zero. -/
def respelledRaw : RawConfig :=
  { localRaw with
    data_sources := .ofList [("primary", localSource), ("replica", { localSource with server := "localhost:05432" })] compare }

theorem respelled_twice_connected :
    ∃ config, from_raw id (fun _ => true) respelledRaw = .ok config ∧ ¬OneConnection config := by
  refine ⟨_, rfl, fun one => ?_⟩
  exact one "primary" "replica" localSource.toDataSourceConfig { localSource.toDataSourceConfig with server := "localhost:05432" }
    ("localhost", 5432) ("localhost", 5432) (by decide) rfl rfl (by decide) (by decide) rfl

end VectorSeam.Endpoints
