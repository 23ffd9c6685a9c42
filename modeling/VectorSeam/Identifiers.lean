import VectorSeam.Configuration

/-!
The queries of a sample, as text and as the tokens that the database reads. A lexer with
the delimited-identifier rule recovers from a query its fixed tokens and, in their
places, the configured names, whatever characters these have.
-/

namespace VectorSeam.Identifiers
open VectorSeam.Model VectorSeam.Configuration

/-! ### Queries -/

def quote_identifier (identifier : String) : String :=
  String.ofList ('\x22' :: identifier.toList.flatMap (fun char => if char = '\x22' then ['\x22', '\x22'] else [char]) ++ ['\x22'])

def ground_truth_sql (config : AggregationConfig) : String :=
  let key := quote_identifier config.key
  let column := quote_identifier config.column
  let table := quote_identifier config.table
  "SELECT " ++ key ++ ", " ++ column ++ " <=> $1::vector AS distance FROM " ++ table ++ " ORDER BY " ++ column ++
    " <=> $1::vector ASC, " ++ key ++ " ASC LIMIT " ++ toString config.k

def ann_sql (config : AggregationConfig) : String :=
  let key := quote_identifier config.key
  let column := quote_identifier config.column
  let table := quote_identifier config.table
  "SELECT " ++ key ++ " FROM " ++ table ++ " ORDER BY " ++ column ++ " <=> $1::vector ASC LIMIT " ++ toString config.k

/-! ### The lexer -/

/-- What runs of characters outside of quotes are made of. -/
inductive Kind where
  | Word
  | Operator
  | Colon
  | Comma
deriving DecidableEq

inductive Token where
  | Bare (kind : Kind) (text : String)
  | Delimited (name : String)
deriving DecidableEq

/-- Where the lexer stands: between tokens, in a run, in quotes, or behind a quote that ends
    the identifier unless another one follows. -/
inductive Mode where
  | Outside
  | Run (kind : Kind) (text : List Char)
  | Quoted (text : List Char)
  | Quote (text : List Char)
deriving DecidableEq

/-- Nothing for characters that could start a string constant or a comment. -/
def kind_of (char : Char) : Option Kind :=
  if char.isAlphanum ∨ char = '_' ∨ char = '$' then some .Word
  else if char = '<' ∨ char = '=' ∨ char = '>' then some .Operator
  else if char = ':' then some .Colon
  else if char = ',' then some .Comma
  else none

/-- An identifier is not empty, and not longer than what the database keeps of it. -/
def delimited (text : List Char) : Option Token :=
  if text = [] ∨ POSTGRES_IDENTIFIER_MAX_BYTES < (String.ofList text).utf8ByteSize then none
  else some (.Delimited (String.ofList text))

def enter (char : Char) : Option Mode :=
  if char = ' ' then some .Outside
  else if char = '\x22' then some (.Quoted [])
  else (kind_of char).map fun kind => .Run kind [char]

/-- The tokens that a character completes, and the mode behind it. -/
def lex_char : Mode → Char → Option (List Token × Mode)
  | .Outside, char => (enter char).map fun mode => ([], mode)
  | .Run kind text, char =>
    if kind ≠ .Comma ∧ kind_of char = some kind then some ([], .Run kind (text ++ [char]))
    else (enter char).map fun mode => ([.Bare kind (String.ofList text)], mode)
  | .Quoted text, char => if char = '\x22' then some ([], .Quote text) else some ([], .Quoted (text ++ [char]))
  | .Quote text, char =>
    if char = '\x22' then some ([], .Quoted (text ++ [char]))
    else (delimited text).bind fun token => (enter char).map fun mode => ([token], mode)

/-- What the end of the text completes; an identifier that is not closed has no token. -/
def finish : Mode → Option (List Token)
  | .Outside => some []
  | .Run kind text => some [.Bare kind (String.ofList text)]
  | .Quoted _ => none
  | .Quote text => (delimited text).map fun token => [token]

/-- The tokens of a text. -/
def lex (mode : Mode) : List Char → Option (List Token)
  | [] => finish mode
  | char :: chars => (lex_char mode char).bind fun (tokens, mode) => (lex mode chars).map fun later => tokens ++ later

/-- The tokens that a part of a text completes, and the mode behind it. -/
def scan (mode : Mode) : List Char → Option (List Token × Mode)
  | [] => some ([], mode)
  | char :: chars => (lex_char mode char).bind fun (tokens, mode) => (scan mode chars).map fun (later, mode) => (tokens ++ later, mode)

def word (text : String) : Token := .Bare .Word text

/-- `<=> $1::vector`. -/
def distance_tokens : List Token := [.Bare .Operator "<=>", word "$1", .Bare .Colon "::", word "vector"]

def ground_truth_tokens (config : AggregationConfig) : List Token :=
  [word "SELECT", .Delimited config.key, .Bare .Comma ",", .Delimited config.column] ++ distance_tokens ++
    [word "AS", word "distance", word "FROM", .Delimited config.table, word "ORDER", word "BY", .Delimited config.column] ++
    distance_tokens ++ [word "ASC", .Bare .Comma ",", .Delimited config.key, word "ASC", word "LIMIT",
      word (toString config.k)]

def ann_tokens (config : AggregationConfig) : List Token :=
  [word "SELECT", .Delimited config.key, word "FROM", .Delimited config.table, word "ORDER", word "BY",
    .Delimited config.column] ++ distance_tokens ++ [word "ASC", word "LIMIT", word (toString config.k)]

/-! ### What the lexer reads -/

/-- The names that `validate_postgres_identifier` accepts. -/
structure Accepted (identifier : String) : Prop where
  nonempty : identifier ≠ ""
  short : identifier.utf8ByteSize ≤ POSTGRES_IDENTIFIER_MAX_BYTES
  no_nul : '\x00' ∉ identifier.toList

theorem accepted_of_valid {debug : String → String} {index_name field identifier : String}
    (valid : validate_postgres_identifier debug index_name field identifier = .ok ()) : Accepted identifier := by
  unfold validate_postgres_identifier at valid
  obtain ⟨nonempty, valid⟩ := Results.check_ok.mp valid
  obtain ⟨short, no_nul⟩ := Results.check_ok.mp valid
  exact {
    nonempty := by simpa using check_ok.mp nonempty
    short := by simpa using check_ok.mp short
    no_nul := by simpa using check_ok.mp no_nul }

theorem delimited_accepted {identifier : String} (accepted : Accepted identifier) :
    delimited identifier.toList = some (.Delimited identifier) := by
  have nonempty : identifier.toList ≠ [] := fun empty => accepted.nonempty (String.toList_eq_nil_iff.mp empty)
  rw [delimited, String.ofList_toList, if_neg (not_or.mpr ⟨nonempty, Nat.not_lt.mpr accepted.short⟩)]

/-- What a name becomes between its quotes. -/
def doubled (name : List Char) : List Char :=
  name.flatMap fun char => if char = '\x22' then ['\x22', '\x22'] else [char]

theorem quote_identifier_toList (identifier : String) :
    (quote_identifier identifier).toList = '\x22' :: (doubled identifier.toList ++ ['\x22']) := by
  rw [quote_identifier, String.toList_ofList]
  rfl

variable {mode mode' : Mode} {char : Char} {chars rest : List Char} {tokens : List Token} {text name : List Char}

/-- A character that completes no token. -/
theorem lex_silent (mode' : Mode) (read : lex_char mode char = some ([], mode')) :
    lex mode (char :: chars) = lex mode' chars := by
  change (lex_char mode char).bind _ = _
  rw [read, Option.bind_some]
  simp

/-- Inside the quotes, every character of the name is taken as it is. -/
theorem lex_doubled (text name rest : List Char) :
    lex (.Quoted text) (doubled name ++ rest) = lex (.Quoted (text ++ name)) rest := by
  induction name generalizing text with
  | nil => rw [List.append_nil]; rfl
  | cons char name ih =>
    by_cases quote : char = '\x22'
    · subst quote
      change lex (.Quoted text) ('\x22' :: '\x22' :: (doubled name ++ rest)) = _
      rw [lex_silent (.Quote text) rfl, lex_silent (.Quoted (text ++ ['\x22'])) rfl, ih, List.append_assoc]
      rfl
    · have one : doubled (char :: name) = char :: doubled name := by simp [doubled, quote]
      have read : lex_char (.Quoted text) char = some ([], .Quoted (text ++ [char])) := by simp [lex_char, quote]
      rw [one, List.cons_append, lex_silent _ read, ih, List.append_assoc]
      rfl

/-- A quote closes the identifier if no other one follows. -/
theorem lex_closed {token : Token} (closes : delimited text = some token) (next : char ≠ '\x22')
    (behind : lex .Outside (char :: chars) = some tokens) : lex (.Quote text) (char :: chars) = some (token :: tokens) := by
  unfold lex lex_char at behind
  cases entered : enter char with
  | none => simp [entered] at behind
  | some mode =>
    simp only [entered, Option.map_some, Option.bind_some] at behind
    cases later : lex mode chars with
    | none => simp [later] at behind
    | some following =>
      rw [later] at behind
      obtain rfl := Option.some.inj behind
      unfold lex lex_char
      simp [next, closes, entered, later]

/-- A quoted name is one token, if what follows does not start with a quote. -/
theorem lex_quoted {identifier : String} (accepted : Accepted identifier) (fixed : String)
    (next : fixed.toList.head?.any (· ≠ '\x22') = true) (behind : lex .Outside (fixed.toList ++ rest) = some tokens) :
    lex .Outside ((quote_identifier identifier).toList ++ (fixed.toList ++ rest)) = some (.Delimited identifier :: tokens) := by
  cases shape : fixed.toList with
  | nil => simp [shape] at next
  | cons char chars =>
    have other : char ≠ '\x22' := by simpa [shape] using next
    rw [shape, List.cons_append] at behind
    rw [quote_identifier_toList, List.cons_append, List.append_assoc, lex_silent (.Quoted []) rfl, lex_doubled,
      List.nil_append, List.singleton_append, lex_silent (.Quote identifier.toList) rfl, List.cons_append]
    exact lex_closed (delimited_accepted accepted) other behind

theorem lex_run {kind : Kind} (long : kind ≠ .Comma) (same : ∀ char ∈ chars, kind_of char = some kind) :
    lex (.Run kind text) chars = some [.Bare kind (String.ofList (text ++ chars))] := by
  induction chars generalizing text with
  | nil => rw [List.append_nil]; rfl
  | cons char chars ih =>
    have read : lex_char (.Run kind text) char = some ([], .Run kind (text ++ [char])) := by
      simp [lex_char, long, same char List.mem_cons_self]
    rw [lex_silent _ read, ih fun other member => same other (List.mem_cons_of_mem _ member), List.append_assoc]
    rfl

/-- The number behind the last keyword. -/
theorem lex_number (k : Nat) : lex .Outside (toString k).toList = some [word (toString k)] := by
  have digits : (toString k).toList = Nat.toDigits 10 k := by simp
  have kinds : ∀ char ∈ (toString k).toList, kind_of char = some .Word := by
    intro char member
    rw [digits] at member
    have digit := Nat.isDigit_of_mem_toDigits (by decide) (by decide) member
    simp [kind_of, Char.isAlphanum, digit]
  cases shape : (toString k).toList with
  | nil => 
    rw [digits] at shape
    exact absurd shape Nat.toDigits_ne_nil
  | cons char chars =>
    rw [shape] at kinds
    have first := kinds char List.mem_cons_self
    have no_space : char ≠ ' ' := by rintro rfl; simp [kind_of] at first
    have no_quote : char ≠ '\x22' := by rintro rfl; simp [kind_of] at first
    have read : lex_char .Outside char = some ([], .Run .Word [char]) := by
      simp [lex_char, enter, no_space, no_quote, first]
    rw [lex_silent _ read, lex_run (by decide) fun other member => kinds other (List.mem_cons_of_mem _ member),
      List.singleton_append, ← shape, String.ofList_toList]
    rfl

theorem lex_scanned {front : List Char} {later : List Token} (scanned : scan mode front = some (tokens, mode'))
    (behind : lex mode' rest = some later) : lex mode (front ++ rest) = some (tokens ++ later) := by
  induction front generalizing mode tokens with
  | nil =>
    obtain ⟨rfl, rfl⟩ := Prod.mk.inj (Option.some.inj scanned)
    exact behind
  | cons char front ih =>
    obtain ⟨⟨first, middle⟩, read, scanned⟩ := Option.bind_eq_some_iff.mp scanned
    obtain ⟨⟨following, last⟩, others, same⟩ := Option.map_eq_some_iff.mp scanned
    obtain ⟨rfl, rfl⟩ := Prod.mk.inj same
    rw [List.cons_append]
    change ((lex_char mode char).bind fun (tokens, mode) => (lex mode (front ++ rest)).map fun later => tokens ++ later) = _
    simp only [read, Option.bind_some, ih others, Option.map_some, List.append_assoc]

/-- A fixed part of a query, which starts and ends between tokens. -/
theorem lex_fixed (fixed : String) (tokens : List Token) {later : List Token}
    (scanned : scan .Outside fixed.toList = some (tokens, .Outside)) (behind : lex .Outside rest = some later) :
    lex .Outside (fixed.toList ++ rest) = some (tokens ++ later) :=
  lex_scanned scanned behind

/-! ### The queries -/

variable {config other : AggregationConfig}

theorem ground_truth_sql_toList (config : AggregationConfig) : (ground_truth_sql config).toList =
    "SELECT ".toList ++ ((quote_identifier config.key).toList ++ (", ".toList ++ ((quote_identifier config.column).toList ++
      (" <=> $1::vector AS distance FROM ".toList ++ ((quote_identifier config.table).toList ++ (" ORDER BY ".toList ++
        ((quote_identifier config.column).toList ++ (" <=> $1::vector ASC, ".toList ++
          ((quote_identifier config.key).toList ++ (" ASC LIMIT ".toList ++ (toString config.k).toList)))))))))) := by
  unfold ground_truth_sql
  repeat rw [String.toList_append]
  simp only [List.append_assoc]

theorem ann_sql_toList (config : AggregationConfig) : (ann_sql config).toList =
    "SELECT ".toList ++ ((quote_identifier config.key).toList ++ (" FROM ".toList ++
      ((quote_identifier config.table).toList ++ (" ORDER BY ".toList ++ ((quote_identifier config.column).toList ++
        (" <=> $1::vector ASC LIMIT ".toList ++ (toString config.k).toList)))))) := by
  unfold ann_sql
  repeat rw [String.toList_append]
  simp only [List.append_assoc]

theorem lex_ground_truth (table : Accepted config.table) (column : Accepted config.column) (key : Accepted config.key) :
    lex .Outside (ground_truth_sql config).toList = some (ground_truth_tokens config) := by
  have limit := lex_fixed " ASC LIMIT " [word "ASC", word "LIMIT"] (by decide) (lex_number config.k)
  have last_key := lex_quoted key _ (by decide) limit
  have order := lex_fixed " <=> $1::vector ASC, " (distance_tokens ++ [word "ASC", .Bare .Comma ","]) (by decide) last_key
  have last_column := lex_quoted column _ (by decide) order
  have ordered := lex_fixed " ORDER BY " [word "ORDER", word "BY"] (by decide) last_column
  have from_table := lex_quoted table _ (by decide) ordered
  have distance := lex_fixed " <=> $1::vector AS distance FROM " (distance_tokens ++ [word "AS", word "distance", word "FROM"])
    (by decide) from_table
  have first_column := lex_quoted column _ (by decide) distance
  have separated := lex_fixed ", " [.Bare .Comma ","] (by decide) first_column
  have first_key := lex_quoted key _ (by decide) separated
  have selected := lex_fixed "SELECT " [word "SELECT"] (by decide) first_key
  rw [ground_truth_sql_toList]
  exact selected

theorem lex_ann (table : Accepted config.table) (column : Accepted config.column) (key : Accepted config.key) :
    lex .Outside (ann_sql config).toList = some (ann_tokens config) := by
  have limit := lex_fixed " <=> $1::vector ASC LIMIT " (distance_tokens ++ [word "ASC", word "LIMIT"]) (by decide)
    (lex_number config.k)
  have last_column := lex_quoted column _ (by decide) limit
  have ordered := lex_fixed " ORDER BY " [word "ORDER", word "BY"] (by decide) last_column
  have from_table := lex_quoted table _ (by decide) ordered
  have source := lex_fixed " FROM " [word "FROM"] (by decide) from_table
  have first_key := lex_quoted key _ (by decide) source
  have selected := lex_fixed "SELECT " [word "SELECT"] (by decide) first_key
  rw [ann_sql_toList]
  exact selected

theorem toString_injective {left right : Nat} (same : toString left = toString right) : left = right := by
  have read : ∀ number : Nat, Nat.ofDigitChars 10 (toString number).toList 0 = number := by
    intro number
    have digits : (toString number).toList = Nat.toDigits 10 number := by simp
    rw [digits, Nat.ofDigitChars_ten_toDigits]
  rw [← read left, same, read right]

/-- The tokens of either query name the table, the column, the key and the number of rows. -/
theorem ground_truth_tokens_injective (same : ground_truth_tokens config = ground_truth_tokens other) :
    config.table = other.table ∧ config.column = other.column ∧ config.key = other.key ∧ config.k = other.k := by
  simp only [ground_truth_tokens, distance_tokens, word, List.cons_append, List.nil_append, List.cons.injEq,
    Token.Delimited.injEq, Token.Bare.injEq, true_and, and_true] at same
  exact ⟨same.2.2.1, same.2.1, same.1, toString_injective same.2.2.2.2.2⟩

theorem ann_tokens_injective (same : ann_tokens config = ann_tokens other) :
    config.table = other.table ∧ config.column = other.column ∧ config.key = other.key ∧ config.k = other.k := by
  simp only [ann_tokens, distance_tokens, word, List.cons_append, List.nil_append, List.cons.injEq,
    Token.Delimited.injEq, Token.Bare.injEq, true_and, and_true] at same
  exact ⟨same.2.1, same.2.2.1, same.1, toString_injective same.2.2.2⟩

/-- The three identifiers of a configuration have passed validation. -/
def Validated (debug : String → String) (config : AggregationConfig) : Prop :=
  validate_postgres_identifier debug config.index "table" config.table = .ok () ∧
    validate_postgres_identifier debug config.index "column" config.column = .ok () ∧
    validate_postgres_identifier debug config.index "key" config.key = .ok ()

/-- The queries of a validated configuration have the tokens of their templates, with the configured names
    in the places of the identifiers, and so they tell configurations apart. -/
theorem identifiers_stay_quoted (debug : String → String) (config : AggregationConfig) (validated : Validated debug config) :
    lex .Outside (ground_truth_sql config).toList = some (ground_truth_tokens config) ∧
      lex .Outside (ann_sql config).toList = some (ann_tokens config) ∧
      ∀ other, Validated debug other → (ground_truth_sql config = ground_truth_sql other ∨ ann_sql config = ann_sql other) →
        config.table = other.table ∧ config.column = other.column ∧ config.key = other.key ∧ config.k = other.k := by
  obtain ⟨table, column, key⟩ := validated
  have truth := lex_ground_truth (accepted_of_valid table) (accepted_of_valid column) (accepted_of_valid key)
  have ann := lex_ann (accepted_of_valid table) (accepted_of_valid column) (accepted_of_valid key)
  refine ⟨truth, ann, ?_⟩
  rintro other ⟨table', column', key'⟩ (same | same)
  · have truth' := lex_ground_truth (accepted_of_valid table') (accepted_of_valid column') (accepted_of_valid key')
    rw [← same, truth] at truth'
    exact ground_truth_tokens_injective (Option.some.inj truth')
  · have ann' := lex_ann (accepted_of_valid table') (accepted_of_valid column') (accepted_of_valid key')
    rw [← same, ann] at ann'
    exact ann_tokens_injective (Option.some.inj ann')

/-- Names with quotes, blanks and a fragment of a query. -/
def hostileConfig : AggregationConfig :=
  { cohort := "prod", target_name := "default", index := "items", table := "items\x22; DROP TABLE items; SELECT \x22",
    column := "\x22\x22", key := "id of item", k := 10, value := 0.5, percentile := 0.5, selection_confidence := 0.5,
    approval_confidence := 0.5, window_duration_seconds := 60, storage_window_seconds := 60, ef_grid := [10],
    train_fraction := 0.5, split_seed := 7 }

theorem hostile_names_stay_quoted :
    lex .Outside (ground_truth_sql hostileConfig).toList = some (ground_truth_tokens hostileConfig) :=
  (identifiers_stay_quoted id hostileConfig ⟨by decide, by decide, by decide⟩).1

end VectorSeam.Identifiers
