import OpmuxGateway.Construction.Ingress.Validate

/-
This file relates an accepted request to the entries of its JSON body.
-/

namespace Opmux.Ingress

theorem bind_succeeds {Error Value Result : Type} {first : Except Error Value}
    {next : Value → Except Error Result} {result : Result}
    (succeeds : first >>= next = .ok result) :
    ∃ value, first = .ok value ∧ next value = .ok result := by
  cases first with
  | error error => cases succeeds
  | ok value => exact ⟨value, rfl, succeeds⟩

/-- The ordered entries of an object read each key as the object does. -/
theorem lookup_asObject {value : Json} {entries : List (String × Json)}
    (object : value.asObject = some entries) (key : String) :
    OrderedMap.lookup entries key = value.get key := by
  cases value with
  | object listed =>
      cases object
      exact OrderedMap.lookup_ofEntries listed key
  | _ => cases object

/-- A value is an object whose keys are all known. -/
def HasKeys (value : Json) (keys : List String) : Prop :=
  ∃ entries, value = .object entries ∧ ∀ entry ∈ entries, entry.1 ∈ keys

/-- A loop that accepts only known keys runs over an object with known keys. -/
theorem hasKeys_of_loop {State : Type} {step : State → String × Json → Except IngressError State}
    {keys : List String}
    (known : ∀ state entry next, step state entry = .ok next → entry.1 ∈ keys)
    {value : Json} {entries : List (String × Json)} {start final : State}
    (object : value.asObject = some entries) (run : entries.foldlM step start = .ok final) :
    HasKeys value keys := by
  cases value with
  | object listed =>
      refine ⟨listed, rfl, ?_⟩
      intro entry member
      obtain ⟨given, found⟩ := OrderedMap.lookup_of_mem member
      cases object
      rw [← OrderedMap.lookup_ofEntries] at found
      obtain ⟨state, next, stepped⟩ := OrderedMap.foldlM_steps run (OrderedMap.lookup_mem found)
      exact known state (entry.1, given) next stepped
  | _ => cases object

/-- A loop succeeds over an object when it accepts the value of each known key. -/
theorem loop_succeeds {State : Type} {step : State → String × Json → Except IngressError State}
    {keys : List String} {value : Json} (hasKeys : HasKeys value keys)
    (accepts : ∀ key ∈ keys, ∀ given, value.get key = some given → ∀ state,
      ∃ next, step state (key, given) = .ok next) (start : State) :
    ∃ entries final, value.asObject = some entries ∧ entries.foldlM step start = .ok final := by
  obtain ⟨listed, rfl, known⟩ := hasKeys
  obtain ⟨final, run⟩ := OrderedMap.foldlM_succeeds (fun entry member => by
    have read := (OrderedMap.ascends_ofEntries listed).lookup_mem member
    rw [OrderedMap.lookup_ofEntries] at read
    exact accepts entry.1 (known entry (OrderedMap.mem_ofEntries member)) entry.2 read) start
  exact ⟨OrderedMap.ofEntries listed, final, rfl, run⟩

/-- A field is set exactly by the entry of its key. -/
def SetBy {Value : Type} (given : Option Json) (Reads : Json → Value → Prop)
    (field : Option Value) : Prop :=
  match given with
  | some value => ∃ read, field = some read ∧ Reads value read
  | none => field = none

/-- One entry sets one field when its reading has one value. -/
theorem SetBy.unique {Value : Type} {given : Option Json} {Reads : Json → Value → Prop}
    {first second : Option Value} (functional : ∀ value one other, Reads value one →
      Reads value other → one = other)
    (left : SetBy given Reads first) (right : SetBy given Reads second) : first = second := by
  cases given with
  | none => exact Eq.trans left (Eq.symm right)
  | some value =>
      obtain ⟨one, rfl, reads⟩ := left
      obtain ⟨other, rfl, again⟩ := right
      exact congrArg some (functional value one other reads again)

/-- The entry of a key is the encoding of its field. -/
theorem SetBy.given_eq {Value : Type} {given : Option Json} {Reads : Json → Value → Prop}
    {field : Option Value} {encode : Value → Json}
    (encodes : ∀ value read, Reads value read → value = encode read)
    (set : SetBy given Reads field) : given = field.map encode := by
  cases given with
  | none =>
      rw [show field = none from set]
      rfl
  | some value =>
      obtain ⟨read, rfl, reads⟩ := set
      exact congrArg some (encodes value read reads)

/-- A field that is set has read its entry. -/
theorem SetBy.reads {Value : Type} {given : Option Json} {Reads : Json → Value → Prop}
    {read : Value} (set : SetBy given Reads (some read)) :
    ∃ value, given = some value ∧ Reads value read := by
  cases given with
  | none => cases set
  | some value =>
      obtain ⟨_, same, reads⟩ := set
      cases same
      exact ⟨value, rfl, reads⟩

/-- A loop over an object sets each field by the entry of its key. -/
theorem setBy_of_loop {State Value : Type} {step : State → String × Json → Except IngressError State}
    {field : State → Option Value} {key : String} {Reads : Json → Value → Prop}
    (assigns : ∀ state entry next, step state entry = .ok next →
      if entry.1 = key then ∃ read, field next = some read ∧ Reads entry.2 read
      else field next = field state)
    {value : Json} {entries : List (String × Json)} {start final : State}
    (object : value.asObject = some entries) (run : entries.foldlM step start = .ok final)
    (empty : field start = none) : SetBy (value.get key) Reads (field final) := by
  have last := OrderedMap.foldlM_lookup field key
    (fun value set => ∃ read, set = some read ∧ Reads value read) assigns run
  rw [lookup_asObject object] at last
  cases given : value.get key with
  | some value =>
      rw [given] at last
      exact last
  | none =>
      rw [given] at last
      exact Eq.trans last empty

/-- A bounded number is the number of the client inside its bounds. -/
def BoundedNumber (min max : Nat) (value : Json) (number : JsonNumber) : Prop :=
  value = .number number ∧ insideBounds number.asF64 min max = true

theorem parseBoundedNumber_eq_ok {value : Json} {field : String} {min max : Nat}
    {number : JsonNumber} (parsed : parseBoundedNumber value field min max = .ok number) :
    BoundedNumber min max value number := by
  cases value with
  | number given =>
      rw [parseBoundedNumber] at parsed
      split at parsed
      · cases parsed
        exact ⟨rfl, ‹_›⟩
      · cases parsed
  | _ => cases parsed

theorem tryU32_eq_some {value : Nat} {parsed : UInt32} (converted : tryU32 value = some parsed) :
    parsed.toNat = value := by
  rw [tryU32] at converted
  split at converted
  · rename_i small
    cases converted
    apply UInt32.toNat_ofNat_of_lt
    unfold u32Max at small
    change value < 2 ^ 32
    omega
  · cases converted

/-- A token count is a positive integer of the client. -/
def TokenCount (value : Json) (maxTokens : UInt32) : Prop :=
  value.asU64 = some maxTokens.toNat ∧ 0 < maxTokens

theorem parseMaxTokens_eq_ok {value : Json} {maxTokens : UInt32}
    (parsed : parseMaxTokens value = .ok maxTokens) : TokenCount value maxTokens := by
  rw [parseMaxTokens] at parsed
  split at parsed
  · rename_i accepted found
    cases parsed
    obtain ⟨converted, positive⟩ := Option.filter_eq_some_iff.mp found
    obtain ⟨given, same, small⟩ := Option.bind_eq_some_iff.mp converted
    rw [TokenCount, same, tryU32_eq_some small]
    exact ⟨rfl, by simpa using positive⟩
  · cases parsed

/-- An accepted entry of the parameters sets exactly one field. -/
inductive SetsParameter (parameters : GenerationParameters) :
    String × Json → GenerationParameters → Prop
  | temperature {value : Json} {number : JsonNumber}
      (read : BoundedNumber minTemperature maxTemperature value number) :
      SetsParameter parameters ("temperature", value)
        { parameters with temperature := some number }
  | topP {value : Json} {number : JsonNumber} (read : BoundedNumber minTopP maxTopP value number) :
      SetsParameter parameters ("top_p", value) { parameters with topP := some number }
  | maxTokens {value : Json} {maxTokens : UInt32} (read : TokenCount value maxTokens) :
      SetsParameter parameters ("max_tokens", value)
        { parameters with maxTokens := some maxTokens }

theorem readParameter_eq_ok {parameters next : GenerationParameters} {entry : String × Json}
    (accepted : readParameter parameters entry = .ok next) :
    SetsParameter parameters entry next := by
  obtain ⟨key, value⟩ := entry
  unfold readParameter at accepted
  split at accepted
  · rename_i same
    obtain ⟨temperature, parsed, assigned⟩ := bind_succeeds accepted
    cases assigned
    cases same
    exact .temperature (parseBoundedNumber_eq_ok parsed)
  · rename_i same
    obtain ⟨topP, parsed, assigned⟩ := bind_succeeds accepted
    cases assigned
    cases same
    exact .topP (parseBoundedNumber_eq_ok parsed)
  · rename_i same
    obtain ⟨maxTokens, parsed, assigned⟩ := bind_succeeds accepted
    cases assigned
    cases same
    exact .maxTokens (parseMaxTokens_eq_ok parsed)
  · cases accepted

/-- The accepted parameters are the entries of their object. -/
structure ReadsParameters (given : String → Option Json) (parameters : GenerationParameters) :
    Prop where
  temperature : SetBy (given "temperature") (BoundedNumber minTemperature maxTemperature)
    parameters.temperature
  topP : SetBy (given "top_p") (BoundedNumber minTopP maxTopP) parameters.topP
  maxTokens : SetBy (given "max_tokens") TokenCount parameters.maxTokens

def parameterKeys : List String := ["temperature", "top_p", "max_tokens"]

theorem SetsParameter.known {parameters next : GenerationParameters} {entry : String × Json}
    (sets : SetsParameter parameters entry next) : entry.1 ∈ parameterKeys := by
  cases sets with
  | _ => simp [parameterKeys]

theorem readsParameters_of_loop {value : Json} {entries : List (String × Json)}
    {parameters : GenerationParameters} (object : value.asObject = some entries)
    (run : entries.foldlM readParameter GenerationParameters.default = .ok parameters) :
    ReadsParameters value.get parameters := by
  constructor
  · apply setBy_of_loop ?_ object run rfl
    intro state entry next accepted
    cases readParameter_eq_ok accepted with
    | temperature read => simpa using read
    | topP _ => simp
    | maxTokens _ => simp
  · apply setBy_of_loop ?_ object run rfl
    intro state entry next accepted
    cases readParameter_eq_ok accepted with
    | temperature _ => simp
    | topP read => simpa using read
    | maxTokens _ => simp
  · apply setBy_of_loop ?_ object run rfl
    intro state entry next accepted
    cases readParameter_eq_ok accepted with
    | temperature _ => simp
    | topP _ => simp
    | maxTokens read => simpa using read

theorem BoundedNumber.unique {min max : Nat} {value : Json} {one other : JsonNumber}
    (first : BoundedNumber min max value one) (second : BoundedNumber min max value other) :
    one = other := by
  have same := first.1.symm.trans second.1
  cases same
  rfl

theorem TokenCount.unique {value : Json} {one other : UInt32} (first : TokenCount value one)
    (second : TokenCount value other) : one = other := by
  have same := first.1.symm.trans second.1
  exact UInt32.toNat_inj.mp (Option.some.inj same)

/-- The entries of an object determine the parameters. -/
theorem ReadsParameters.unique {given : String → Option Json}
    {first second : GenerationParameters} (left : ReadsParameters given first)
    (right : ReadsParameters given second) : first = second := by
  have temperature := left.temperature.unique (fun _ _ _ one other => one.unique other)
    right.temperature
  have topP := left.topP.unique (fun _ _ _ one other => one.unique other) right.topP
  have maxTokens := left.maxTokens.unique (fun _ _ _ one other => one.unique other)
    right.maxTokens
  cases first
  cases second
  simp_all

theorem parseBoundedNumber_of_bounded {min max : Nat} {value : Json} {number : JsonNumber}
    (bounded : BoundedNumber min max value number) (field : String) :
    parseBoundedNumber value field min max = .ok number := by
  obtain ⟨rfl, inside⟩ := bounded
  rw [parseBoundedNumber, if_pos inside]

theorem parseMaxTokens_of_count {value : Json} {maxTokens : UInt32}
    (count : TokenCount value maxTokens) : parseMaxTokens value = .ok maxTokens := by
  have small : maxTokens.toNat ≤ u32Max := by
    have := maxTokens.toNat_lt
    unfold u32Max
    omega
  have converted : tryU32 maxTokens.toNat = some maxTokens := by
    rw [tryU32, if_pos small, UInt32.ofNat_toNat]
  have counted : (value.asU64.bind tryU32).filter (fun parsed => decide (0 < parsed)) =
      some maxTokens := by
    rw [count.1, Option.bind_some, converted]
    exact Option.filter_some_pos (decide_eq_true count.2)
  rw [parseMaxTokens, counted]

/-- A known key with a readable value is accepted. -/
theorem readParameter_succeeds {given : String → Option Json} {parameters : GenerationParameters}
    (reads : ReadsParameters given parameters) {key : String} (known : key ∈ parameterKeys)
    {value : Json} (found : given key = some value) (state : GenerationParameters) :
    ∃ next, readParameter state (key, value) = .ok next := by
  simp only [parameterKeys, List.mem_cons, List.not_mem_nil, or_false] at known
  rcases known with rfl | rfl | rfl
  · have set := reads.temperature
    rw [found] at set
    obtain ⟨number, _, bounded⟩ := set
    refine ⟨{ state with temperature := some number }, ?_⟩
    simp only [readParameter, parseBoundedNumber_of_bounded bounded]
    rfl
  · have set := reads.topP
    rw [found] at set
    obtain ⟨number, _, bounded⟩ := set
    refine ⟨{ state with topP := some number }, ?_⟩
    simp only [readParameter, parseBoundedNumber_of_bounded bounded]
    rfl
  · have set := reads.maxTokens
    rw [found] at set
    obtain ⟨maxTokens, _, count⟩ := set
    refine ⟨{ state with maxTokens := some maxTokens }, ?_⟩
    simp only [readParameter, parseMaxTokens_of_count count]
    rfl

/-- The parameters are accepted exactly when their keys are known and their values are read. -/
theorem parseParameters_eq_ok_iff {value : Json} {parameters : GenerationParameters} :
    parseParameters value = .ok parameters ↔
      HasKeys value parameterKeys ∧ ReadsParameters value.get parameters := by
  constructor
  · intro parsed
    rw [parseParameters] at parsed
    split at parsed
    · cases parsed
    · rename_i entries object
      refine ⟨hasKeys_of_loop ?_ object parsed, readsParameters_of_loop object parsed⟩
      intro state entry next accepted
      exact (readParameter_eq_ok accepted).known
  · rintro ⟨hasKeys, reads⟩
    obtain ⟨entries, final, object, run⟩ := loop_succeeds hasKeys
      (fun key known given found => readParameter_succeeds reads known found)
      GenerationParameters.default
    rw [parseParameters, object]
    change entries.foldlM readParameter GenerationParameters.default = _
    rw [run, (readsParameters_of_loop object run).unique reads]

theorem parseString_eq_ok {value : Json} {field control : String}
    (parsed : parseStringControl value field = .ok control) : value = .string control := by
  cases value with
  | string given =>
      cases parsed
      rfl
  | _ => cases parsed

theorem parseBool_eq_ok {value : Json} {field : String} {control : Bool}
    (parsed : parseBoolControl value field = .ok control) : value = .bool control := by
  cases value with
  | bool given =>
      cases parsed
      rfl
  | _ => cases parsed

theorem parsePrompt_eq_ok {value : Json} {prompt : String}
    (parsed : parsePrompt value = .ok prompt) : value = .string prompt := by
  cases value with
  | string given =>
      cases parsed
      rfl
  | _ => cases parsed

/-- An accepted entry of the body sets exactly one control. -/
inductive SetsControl (controls : Controls) : String × Json → Controls → Prop
  | prompt (prompt : String) :
      SetsControl controls ("prompt", .string prompt) { controls with prompt := some prompt }
  | metadata (value : Json) :
      SetsControl controls ("metadata", value) { controls with metadata := some value }
  | route (route : String) :
      SetsControl controls ("route", .string route) { controls with route := some route }
  | allowFallback (flag : Bool) :
      SetsControl controls ("allow_fallback", .bool flag)
        { controls with allowFallback := some flag }
  | parameters {value : Json} {parameters : GenerationParameters}
      (parsed : parseParameters value = .ok parameters) :
      SetsControl controls ("parameters", value) { controls with parameters := parameters }

theorem readControl_eq_ok {controls next : Controls} {entry : String × Json}
    (accepted : readControl controls entry = .ok next) : SetsControl controls entry next := by
  obtain ⟨key, value⟩ := entry
  unfold readControl at accepted
  split at accepted
  · rename_i same
    obtain ⟨prompt, parsed, assigned⟩ := bind_succeeds accepted
    cases assigned
    cases same
    cases parsePrompt_eq_ok parsed
    exact .prompt prompt
  · rename_i same
    cases accepted
    cases same
    exact .metadata value
  · rename_i same
    obtain ⟨route, parsed, assigned⟩ := bind_succeeds accepted
    cases assigned
    cases same
    cases parseString_eq_ok parsed
    exact .route route
  · rename_i same
    obtain ⟨flag, parsed, assigned⟩ := bind_succeeds accepted
    cases assigned
    cases same
    cases parseBool_eq_ok parsed
    exact .allowFallback flag
  · rename_i same
    obtain ⟨parameters, parsed, assigned⟩ := bind_succeeds accepted
    cases assigned
    cases same
    exact .parameters parsed
  · cases accepted
  · cases accepted
  · cases accepted

def controlKeys : List String := ["prompt", "metadata", "route", "allow_fallback", "parameters"]

theorem SetsControl.known {controls next : Controls} {entry : String × Json}
    (sets : SetsControl controls entry next) : entry.1 ∈ controlKeys := by
  cases sets with
  | _ => simp [controlKeys]

/-- Omitted parameters are the default ones. -/
def ParametersOf (given : Option Json) (parameters : GenerationParameters) : Prop :=
  match given with
  | some value => parseParameters value = .ok parameters
  | none => parameters = GenerationParameters.default

/-- The loop over a body reads these controls. -/
structure ReadsControls (body : Json) (controls : Controls) : Prop where
  prompt : SetBy (body.get "prompt") (fun value prompt => value = .string prompt) controls.prompt
  metadata : SetBy (body.get "metadata") (fun value metadata => value = metadata) controls.metadata
  route : SetBy (body.get "route") (fun value route => value = .string route) controls.route
  allowFallback : SetBy (body.get "allow_fallback") (fun value flag => value = .bool flag)
    controls.allowFallback
  parameters : ParametersOf (body.get "parameters") controls.parameters

def Controls.initial : Controls := ⟨none, none, none, none, GenerationParameters.default⟩

theorem readsControls_of_loop {body : Json} {entries : List (String × Json)} {final : Controls}
    (object : body.asObject = some entries)
    (run : entries.foldlM readControl Controls.initial = .ok final) : ReadsControls body final := by
  constructor
  · apply setBy_of_loop ?_ object run rfl
    intro state entry next accepted
    cases readControl_eq_ok accepted with
    | _ => simp
  · apply setBy_of_loop ?_ object run rfl
    intro state entry next accepted
    cases readControl_eq_ok accepted with
    | _ => simp
  · apply setBy_of_loop ?_ object run rfl
    intro state entry next accepted
    cases readControl_eq_ok accepted with
    | _ => simp
  · apply setBy_of_loop ?_ object run rfl
    intro state entry next accepted
    cases readControl_eq_ok accepted with
    | _ => simp
  · have last := OrderedMap.foldlM_lookup Controls.parameters "parameters"
      (fun value parameters => parseParameters value = .ok parameters) (by
        intro state entry next accepted
        cases readControl_eq_ok accepted with
        | parameters parsed => simpa using parsed
        | _ => simp) run
    rw [lookup_asObject object] at last
    cases given : body.get "parameters" with
    | some value =>
        rw [given] at last
        exact last
    | none =>
        rw [given] at last
        exact last

/-- A known key with a readable value is accepted. -/
theorem readControl_succeeds {body : Json} {controls : Controls}
    (reads : ReadsControls body controls) {key : String} (known : key ∈ controlKeys)
    {value : Json} (found : body.get key = some value) (state : Controls) :
    ∃ next, readControl state (key, value) = .ok next := by
  simp only [controlKeys, List.mem_cons, List.not_mem_nil, or_false] at known
  rcases known with rfl | rfl | rfl | rfl | rfl
  · have set := reads.prompt
    rw [found] at set
    obtain ⟨prompt, _, rfl⟩ := set
    exact ⟨{ state with prompt := some prompt }, rfl⟩
  · exact ⟨{ state with metadata := some value }, rfl⟩
  · have set := reads.route
    rw [found] at set
    obtain ⟨route, _, rfl⟩ := set
    exact ⟨{ state with route := some route }, rfl⟩
  · have set := reads.allowFallback
    rw [found] at set
    obtain ⟨flag, _, rfl⟩ := set
    exact ⟨{ state with allowFallback := some flag }, rfl⟩
  · have parsed : ParametersOf (body.get "parameters") controls.parameters := reads.parameters
    rw [found] at parsed
    refine ⟨{ state with parameters := controls.parameters }, ?_⟩
    have parsed : parseParameters value = .ok controls.parameters := parsed
    simp only [readControl, parsed]
    rfl

theorem ParametersOf.unique {given : Option Json} {first second : GenerationParameters}
    (left : ParametersOf given first) (right : ParametersOf given second) : first = second := by
  cases given with
  | some value => exact Except.ok.inj (Eq.trans (Eq.symm left) right)
  | none => exact Eq.trans left (Eq.symm right)

/-- A body determines its controls. -/
theorem ReadsControls.unique {body : Json} {first second : Controls}
    (left : ReadsControls body first) (right : ReadsControls body second) : first = second := by
  have text (value : Json) (one other : String) (same : value = .string one)
      (again : value = .string other) : one = other := Json.string.inj (same.symm.trans again)
  have flag (value : Json) (one other : Bool) (same : value = .bool one)
      (again : value = .bool other) : one = other := Json.bool.inj (same.symm.trans again)
  have prompt := left.prompt.unique text right.prompt
  have metadata := left.metadata.unique (fun _ _ _ one other => one.symm.trans other)
    right.metadata
  have route := left.route.unique text right.route
  have allowFallback := left.allowFallback.unique flag right.allowFallback
  have parameters := left.parameters.unique right.parameters
  cases first
  cases second
  simp_all

theorem validatePromptBounds_eq_ok_iff {prompt : String} {limits : PolicyLimits} :
    validatePromptBounds prompt limits = .ok () ↔
      trim prompt ≠ "" ∧ prompt.length ≤ limits.maxPromptChars ∧
        prompt.utf8ByteSize ≤ limits.maxPromptChars := by
  unfold validatePromptBounds
  split_ifs with empty long wide
  · simp [empty]
  · simp only [false_iff]
    omega
  · simp only [false_iff]
    omega
  · exact ⟨fun _ => ⟨empty, not_lt.mp long, not_lt.mp wide⟩, fun _ => rfl⟩

theorem validateMetadataSize_eq_ok_iff {toVec : Json → Option (List UInt8)} {metadata : Json}
    {limits : PolicyLimits} : validateMetadataSize toVec metadata limits = .ok () ↔
      ((toVec metadata.canonical).map List.length).getD u64Max ≤ limits.maxMetadataBytes := by
  unfold validateMetadataSize
  split_ifs with large
  · simp only [false_iff]
    omega
  · exact ⟨fun _ => not_lt.mp large, fun _ => rfl⟩

/-- The controls of an accepted request. -/
def IngressRequest.controls (request : IngressRequest) : Controls :=
  ⟨some request.prompt, some request.metadata, request.route, request.allowFallback,
    request.parameters⟩

/-- A body is accepted exactly when its keys are known, its controls are read, and its texts are
bounded. -/
theorem parseIngressRequest_eq_ok_iff {toVec : Json → Option (List UInt8)} {body : Json}
    {limits : PolicyLimits} {request : IngressRequest} :
    parseIngressRequest toVec body limits = .ok request ↔
      HasKeys body controlKeys ∧ ReadsControls body request.controls ∧
        validatePromptBounds request.prompt limits = .ok () ∧
        validateMetadataSize toVec request.metadata limits = .ok () := by
  constructor
  · intro parsed
    unfold parseIngressRequest at parsed
    split at parsed
    · cases parsed
    · rename_i entries object
      obtain ⟨controls, run, assembled⟩ := bind_succeeds parsed
      have reads := readsControls_of_loop object run
      split at assembled
      · cases assembled
      · cases assembled
      · rename_i prompt metadata prompted described
        obtain ⟨_, bounded, rest⟩ := bind_succeeds assembled
        obtain ⟨_, sized, assigned⟩ := bind_succeeds rest
        cases assigned
        refine ⟨hasKeys_of_loop ?_ object run, ?_, bounded, sized⟩
        · intro state entry next accepted
          exact (readControl_eq_ok accepted).known
        · rw [IngressRequest.controls, ← prompted, ← described]
          exact reads
  · rintro ⟨hasKeys, reads, bounded, sized⟩
    obtain ⟨entries, final, object, run⟩ := loop_succeeds hasKeys
      (fun key known given found => readControl_succeeds reads known found) Controls.initial
    have same : final = request.controls := (readsControls_of_loop object run).unique reads
    unfold parseIngressRequest
    rw [object]
    change entries.foldlM readControl Controls.initial >>= _ = _
    rw [run, same]
    change validatePromptBounds request.prompt limits >>= _ = _
    rw [bounded]
    change validateMetadataSize toVec request.metadata limits >>= _ = _
    rw [sized]
    rfl

end Opmux.Ingress
