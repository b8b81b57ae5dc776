import OpmuxGateway.Proof.Core.CanonicalJson
import OpmuxGateway.Proof.Core.JsonNumber
import OpmuxGateway.Proof.Core.Text
import OpmuxGateway.Proof.Ingress.RequestParsing

/-
This file proves the contract of a generation request.
-/

namespace Opmux.Ingress

/-- The parameters are bounded numbers and one positive token count. -/
structure ParameterContract (value : Json) (parameters : GenerationParameters) : Prop where
  keys : HasKeys value ["temperature", "top_p", "max_tokens"]
  temperature : value.get "temperature" = parameters.temperature.map Json.number
  temperatureWithin : ∀ number, parameters.temperature = some number → number.Within 0 2
  topP : value.get "top_p" = parameters.topP.map Json.number
  topPWithin : ∀ number, parameters.topP = some number → number.Within 0 1
  maxTokens : value.get "max_tokens" =
    parameters.maxTokens.map fun maxTokens => .number (.posInt maxTokens.toUInt64)
  positive : ∀ maxTokens, parameters.maxTokens = some maxTokens → 1 ≤ maxTokens.toNat

/-- The grammar of a request reads each value of the body unchanged. -/
structure Contract (toVec : Json → Option (List UInt8)) (limits : PolicyLimits) (body : Json)
    (request : IngressRequest) : Prop where
  keys : HasKeys body ["prompt", "metadata", "route", "allow_fallback", "parameters"]
  prompt : body.get "prompt" = some (.string request.prompt)
  visible : ∃ c ∈ request.prompt.toList, isWhitespace c = false
  bytes : request.prompt.utf8ByteSize ≤ limits.maxPromptChars
  metadata : body.get "metadata" = some request.metadata
  size : ∃ serialized, toVec request.metadata.canonical = some serialized ∧
    serialized.length ≤ limits.maxMetadataBytes
  route : body.get "route" = request.route.map Json.string
  allowFallback : body.get "allow_fallback" = request.allowFallback.map Json.bool
  parameters : (body.get "parameters" = none ∧
      request.parameters = GenerationParameters.default) ∨
    ∃ value, body.get "parameters" = some value ∧ ParameterContract value request.parameters

/-- The comparison of a double with small bounds is the comparison of its number. -/
theorem insideBounds_iff {number : JsonNumber} {min max : Nat} (small : max < 2 ^ 52) :
    insideBounds number.asF64 min max = true ↔ number.Within min max := by
  constructor
  · intro inside
    cases converted : number.asF64 with
    | finite double =>
        rw [converted, insideBounds, Bool.and_eq_true, decide_eq_true_iff, decide_eq_true_iff]
          at inside
        have nonnegative : (0 : ℚ) ≤ min := Nat.cast_nonneg min
        exact ⟨double, JsonNumber.value_of_asF64 small converted (nonnegative.trans inside.1)
          inside.2, inside⟩
    | nan =>
        rw [converted] at inside
        cases inside
    | infinite negative =>
        rw [converted] at inside
        cases inside
  · rintro ⟨value, exact, low, high⟩
    have nonnegative : (0 : ℚ) ≤ min := Nat.cast_nonneg min
    rw [JsonNumber.asF64_of_value small exact (nonnegative.trans low) high, insideBounds,
      Bool.and_eq_true, decide_eq_true_iff, decide_eq_true_iff]
    exact ⟨low, high⟩

/-- A field is set by a fixed encoding exactly when the encoding is its entry. -/
theorem setBy_encoding {Value : Type} {given : Option Json} {Reads : Json → Value → Prop}
    {field : Option Value} {encode : Value → Json} {Holds : Value → Prop}
    (reads : ∀ value read, Reads value read ↔ value = encode read ∧ Holds read) :
    SetBy given Reads field ↔
      given = field.map encode ∧ ∀ read, field = some read → Holds read := by
  constructor
  · intro set
    refine ⟨set.given_eq fun value read isRead => ((reads value read).mp isRead).1, ?_⟩
    rintro read rfl
    obtain ⟨value, _, isRead⟩ := set.reads
    exact ((reads value read).mp isRead).2
  · rintro ⟨rfl, holds⟩
    cases field with
    | none => rfl
    | some read => exact ⟨read, rfl, (reads _ read).mpr ⟨rfl, holds read rfl⟩⟩

theorem tokenCount_iff (value : Json) (maxTokens : UInt32) :
    TokenCount value maxTokens ↔
      value = .number (.posInt maxTokens.toUInt64) ∧ 1 ≤ maxTokens.toNat := by
  have positive : 0 < maxTokens ↔ 1 ≤ maxTokens.toNat := UInt32.lt_iff_toNat_lt
  rw [TokenCount, positive]
  apply and_congr_left
  intro _
  constructor
  · intro count
    cases value with
    | number number =>
        cases number with
        | posInt given =>
            have same : given.toNat = maxTokens.toNat := Option.some.inj count
            rw [show given = maxTokens.toUInt64 from UInt64.toNat_inj.mp (by simpa using same)]
        | _ => cases count
    | _ => cases count
  · rintro rfl
    simp [Json.asU64, JsonNumber.asU64]

/-- The accepted parameters are those of the contract. -/
theorem parameterContract_iff {value : Json} {parameters : GenerationParameters} :
    parseParameters value = .ok parameters ↔ ParameterContract value parameters := by
  have bounded (max : Nat) (small : max < 2 ^ 52) (given : Json) (number : JsonNumber) :
      BoundedNumber 0 max given number ↔ given = .number number ∧ number.Within 0 max := by
    rw [BoundedNumber, insideBounds_iff small, Nat.cast_zero]
  rw [parseParameters_eq_ok_iff]
  constructor
  · rintro ⟨keys, reads⟩
    obtain ⟨temperature, temperatureWithin⟩ :=
      (setBy_encoding (bounded 2 (by norm_num))).mp reads.temperature
    obtain ⟨topP, topPWithin⟩ := (setBy_encoding (bounded 1 (by norm_num))).mp reads.topP
    obtain ⟨maxTokens, positive⟩ :=
      (setBy_encoding tokenCount_iff).mp reads.maxTokens
    exact ⟨keys, temperature, by simpa using temperatureWithin, topP, by simpa using topPWithin,
      maxTokens, positive⟩
  · intro contract
    refine ⟨contract.keys, ?_, ?_, ?_⟩
    · exact (setBy_encoding (bounded 2 (by norm_num))).mpr
        ⟨contract.temperature, by simpa using contract.temperatureWithin⟩
    · exact (setBy_encoding (bounded 1 (by norm_num))).mpr
        ⟨contract.topP, by simpa using contract.topPWithin⟩
    · exact (setBy_encoding tokenCount_iff).mpr
        ⟨contract.maxTokens, contract.positive⟩

/-- A prompt is bounded exactly when it is visible and its bytes fit. -/
theorem promptBounds_iff {prompt : String} {limits : PolicyLimits} :
    validatePromptBounds prompt limits = .ok () ↔
      (∃ c ∈ prompt.toList, isWhitespace c = false) ∧
        prompt.utf8ByteSize ≤ limits.maxPromptChars := by
  rw [validatePromptBounds_eq_ok_iff, trim_ne_empty]
  constructor
  · rintro ⟨visible, _, bytes⟩
    exact ⟨visible, bytes⟩
  · rintro ⟨visible, bytes⟩
    exact ⟨visible, (length_le_bytes prompt).trans bytes, bytes⟩

/-- One parsed value has one reading of each key. -/
theorem get_same {value other : Json} (same : value.canonical = other.canonical) (key : String) :
    (value.get key).map Json.canonical = (other.get key).map Json.canonical := by
  rw [← Json.get_canonical, ← Json.get_canonical, same]

theorem hasKeys_same {value other : Json} {keys : List String}
    (same : value.canonical = other.canonical) (hasKeys : HasKeys value keys) :
    HasKeys other keys := by
  obtain ⟨entries, rfl, known⟩ := hasKeys
  cases other with
  | object listed =>
      refine ⟨listed, rfl, ?_⟩
      intro entry member
      obtain ⟨given, found⟩ := OrderedMap.lookup_of_mem member
      have read := get_same same entry.1
      rw [show (Json.object listed).get entry.1 = some given from found, Option.map_some,
        Option.map_eq_some_iff] at read
      obtain ⟨value, read, _⟩ := read
      exact known (entry.1, value) (OrderedMap.lookup_mem read)
  | _ => cases same

/-- A reading of a parsed value sets its field alike. -/
theorem SetBy.same {Value : Type} {given other : Option Json} {Reads : Json → Value → Prop}
    {field : Option Value} (same : given.map Json.canonical = other.map Json.canonical)
    (respects : ∀ value again read, value.canonical = again.canonical → Reads value read →
      Reads again read) (set : SetBy given Reads field) : SetBy other Reads field := by
  cases other with
  | none =>
      rw [Option.map_none, Option.map_eq_none_iff] at same
      rw [same] at set
      exact set
  | some again =>
      obtain ⟨value, rfl, alike⟩ := Option.map_eq_some_iff.mp same
      obtain ⟨read, assigned, isRead⟩ := set
      exact ⟨read, assigned, respects value again read alike isRead⟩

theorem BoundedNumber.same {min max : Nat} (value again : Json) (number : JsonNumber)
    (same : value.canonical = again.canonical) (bounded : BoundedNumber min max value number) :
    BoundedNumber min max again number := by
  obtain ⟨rfl, inside⟩ := bounded
  exact ⟨Json.eq_of_canonical same.symm (by simp) (by simp), inside⟩

theorem TokenCount.same (value again : Json) (maxTokens : UInt32)
    (same : value.canonical = again.canonical) (count : TokenCount value maxTokens) :
    TokenCount again maxTokens := by
  rw [tokenCount_iff] at count ⊢
  obtain ⟨rfl, positive⟩ := count
  exact ⟨Json.eq_of_canonical same.symm (by simp) (by simp), positive⟩

theorem parseParameters_same {value again : Json} {parameters : GenerationParameters}
    (same : value.canonical = again.canonical)
    (parsed : parseParameters value = .ok parameters) : parseParameters again = .ok parameters := by
  rw [parseParameters_eq_ok_iff] at parsed ⊢
  obtain ⟨keys, reads⟩ := parsed
  exact ⟨hasKeys_same same keys,
    reads.temperature.same (get_same same "temperature") BoundedNumber.same,
    reads.topP.same (get_same same "top_p") BoundedNumber.same,
    reads.maxTokens.same (get_same same "max_tokens") TokenCount.same⟩

section Serialization

variable {toVec : Json → Option (List UInt8)} {limits : PolicyLimits}

/-- An accepted body is one of the contract. -/
theorem contract_iff (serializes : ∀ value, (toVec value).isSome) {body : Json}
    {request : IngressRequest} :
    parseIngressRequest toVec body limits = .ok request ↔ Contract toVec limits body request := by
  have size : validateMetadataSize toVec request.metadata limits = .ok () ↔
      ∃ serialized, toVec request.metadata.canonical = some serialized ∧
        serialized.length ≤ limits.maxMetadataBytes := by
    rw [validateMetadataSize_eq_ok_iff]
    obtain ⟨serialized, same⟩ := Option.isSome_iff_exists.mp (serializes request.metadata.canonical)
    simp [same]
  have exact {Value : Type} (encode : Value → Json) (value : Json) (read : Value) :
      value = encode read ↔ value = encode read ∧ True := (and_iff_left trivial).symm
  rw [parseIngressRequest_eq_ok_iff, promptBounds_iff, size]
  constructor
  · rintro ⟨keys, reads, ⟨visible, bytes⟩, sized⟩
    obtain ⟨prompt, _⟩ := (setBy_encoding (exact Json.string)).mp reads.prompt
    obtain ⟨metadata, _⟩ := (setBy_encoding (exact id)).mp reads.metadata
    obtain ⟨route, _⟩ := (setBy_encoding (exact Json.string)).mp reads.route
    obtain ⟨allowFallback, _⟩ := (setBy_encoding (exact Json.bool)).mp reads.allowFallback
    refine ⟨keys, prompt, visible, bytes, metadata, sized, route, allowFallback, ?_⟩
    have parameters := reads.parameters
    cases given : body.get "parameters" with
    | none =>
        rw [given] at parameters
        exact .inl ⟨rfl, parameters⟩
    | some value =>
        rw [given] at parameters
        exact .inr ⟨value, rfl, parameterContract_iff.mp parameters⟩
  · intro contract
    refine ⟨contract.keys, ⟨?_, ?_, ?_, ?_, ?_⟩, ⟨contract.visible, contract.bytes⟩,
      contract.size⟩
    · exact (setBy_encoding (exact Json.string)).mpr ⟨contract.prompt, fun _ _ => trivial⟩
    · exact (setBy_encoding (exact id)).mpr ⟨contract.metadata, fun _ _ => trivial⟩
    · exact (setBy_encoding (exact Json.string)).mpr ⟨contract.route, fun _ _ => trivial⟩
    · exact (setBy_encoding (exact Json.bool)).mpr ⟨contract.allowFallback, fun _ _ => trivial⟩
    · rcases contract.parameters with ⟨omitted, default⟩ | ⟨value, given, parameters⟩
      · rw [omitted]
        exact default
      · rw [given]
        exact parameterContract_iff.mpr parameters

/-- Two bodies that are one parsed value are accepted alike. -/
theorem parseIngressRequest_same {body other : Json} {request : IngressRequest}
    (same : body.canonical = other.canonical)
    (parsed : parseIngressRequest toVec body limits = .ok request) :
    ∃ metadata, metadata.canonical = request.metadata.canonical ∧
      parseIngressRequest toVec other limits = .ok { request with metadata := metadata } := by
  rw [parseIngressRequest_eq_ok_iff] at parsed
  obtain ⟨keys, reads, bounded, sized⟩ := parsed
  have text (value again : Json) (read : String) (alike : value.canonical = again.canonical)
      (isRead : value = .string read) : again = .string read := by
    subst isRead
    exact Json.eq_of_canonical alike.symm (by simp) (by simp)
  have flag (value again : Json) (read : Bool) (alike : value.canonical = again.canonical)
      (isRead : value = .bool read) : again = .bool read := by
    subst isRead
    exact Json.eq_of_canonical alike.symm (by simp) (by simp)
  obtain ⟨_, given, rfl⟩ := reads.metadata.reads
  have described := get_same same "metadata"
  rw [given, Option.map_some, eq_comm, Option.map_eq_some_iff] at described
  obtain ⟨metadata, found, alike⟩ := described
  refine ⟨metadata, alike, ?_⟩
  rw [parseIngressRequest_eq_ok_iff]
  refine ⟨hasKeys_same same keys, ⟨?_, ?_, ?_, ?_, ?_⟩, bounded, ?_⟩
  · exact reads.prompt.same (get_same same "prompt") text
  · rw [found]
    exact ⟨metadata, rfl, rfl⟩
  · exact reads.route.same (get_same same "route") text
  · exact reads.allowFallback.same (get_same same "allow_fallback") flag
  · have parameters := reads.parameters
    have alike := get_same same "parameters"
    cases again : other.get "parameters" with
    | none =>
        rw [again, Option.map_none, Option.map_eq_none_iff] at alike
        rw [alike] at parameters
        exact parameters
    | some value =>
        rw [again, Option.map_some, Option.map_eq_some_iff] at alike
        obtain ⟨first, listed, alike⟩ := alike
        rw [listed] at parameters
        exact parseParameters_same alike parameters
  · rw [validateMetadataSize_eq_ok_iff] at sized ⊢
    rw [alike]
    exact sized

end Serialization

/-- A body is accepted exactly when it follows the contract, in any order of its keys. -/
theorem request_contract (toVec : Json → Option (List UInt8))
    (serializes : ∀ value, (toVec value).isSome) (limits : PolicyLimits) (body : Json) :
    (∀ request, parseIngressRequest toVec body limits = .ok request ↔
      Contract toVec limits body request) ∧
    (∀ other request, body.canonical = other.canonical →
      parseIngressRequest toVec body limits = .ok request →
        ∃ metadata, metadata.canonical = request.metadata.canonical ∧
          parseIngressRequest toVec other limits = .ok { request with metadata := metadata }) :=
  ⟨fun _ => contract_iff serializes, fun _ _ same parsed => parseIngressRequest_same same parsed⟩

mutual

/-- The compact text of a value whose strings need no escapes and whose numbers are integers. -/
def compact : Json → String
  | .null => "null"
  | .bool value => if value then "true" else "false"
  | .number (.posInt value) => toString value.toNat
  | .number (.negInt value) => toString value.toInt
  | .number (.float _) => "null"
  | .string value => "\"" ++ value ++ "\""
  | .array items => "[" ++ ",".intercalate (compactItems items) ++ "]"
  | .object entries => "\x7b" ++ ",".intercalate (compactEntries entries) ++ "\x7d"

def compactItems : List Json → List String
  | [] => []
  | item :: rest => compact item :: compactItems rest

def compactEntries : List (String × Json) → List String
  | [] => []
  | (key, value) :: rest => ("\"" ++ key ++ "\":" ++ compact value) :: compactEntries rest

end

def compactToVec (value : Json) : Option (List UInt8) :=
  some ((compact value).toList.flatMap String.utf8EncodeChar)

def greeting : Json := .object [("prompt", .string "hi"), ("metadata", .object [])]

def wideLimits : PolicyLimits :=
  ⟨1, 1, 1, 1, 1, 1, 1, 1, 1, 1000, 1000, 4000, 1000⟩

/-- The entries of a request that sets each of its controls. -/
def fullEntries : List (String × Json) :=
  [("prompt", .string "hi"),
    ("metadata", .object [("trace", .number (.posInt 7)), ("tenant", .string "a")]),
    ("route", .string "default"), ("allow_fallback", .bool false),
    ("parameters", .object [("temperature", .number (.float (.finite 1))),
      ("top_p", .number (.posInt 1)), ("max_tokens", .number (.posInt 128))])]

def fullRequest : IngressRequest :=
  ⟨"hi", .object [("trace", .number (.posInt 7)), ("tenant", .string "a")], some "default",
    some false, ⟨some (.float (.finite 1)), some (.posInt 1), some 128⟩⟩

theorem fullEntries_parse :
    parseIngressRequest compactToVec (.object fullEntries) wideLimits = .ok fullRequest := by
  rfl

/-- The request is accepted as its contract says, and in the reverse order, too. -/
theorem request_contract_example :
    Contract compactToVec wideLimits (.object fullEntries) fullRequest ∧
    ∃ metadata, metadata.canonical = fullRequest.metadata.canonical ∧
      parseIngressRequest compactToVec (.object fullEntries.reverse) wideLimits =
        .ok { fullRequest with metadata := metadata } := by
  have contract := request_contract compactToVec (fun _ => rfl) wideLimits (.object fullEntries)
  have reordered := Json.canonical_perm (List.reverse_perm fullEntries).symm (by decide)
  exact ⟨(contract.1 _).mp fullEntries_parse, contract.2 _ _ reordered fullEntries_parse⟩

end Opmux.Ingress
