/-
**What the Sangfor adapter confirms** (`app/adapters/sangfor/disposition.py`).

A status write is confirmed by reading the incident's status back, an entity action by reading its
rules, its task or its order.
-/

import ShadowTrace.Sangfor.Requests
import ShadowTrace.Models.Json

namespace ShadowTrace.Sangfor

structure VendorResponse where
  httpStatus : Int
  businessCode : Option String
  data : Json

/-- What a status write has left for its read-back. -/
structure WriteSnapshot where
  writeCode : Option String
  succeededNum : Option Int
  total : Option Int
  target : SourceDisposition
  usedIncidentsList : Bool := false

def expectedLibrary : SourceDisposition → Option Int
  | .pending => some 1
  | .processing => some 2
  | .completed => some 3
  | .suspended => some 4
  | .ignored => some 5
  | .contained => some 6
  | .unknown => none

/-- What a read asks for. -/
inductive Query
  | dealstatus (snapshot : WriteSnapshot) (objectId : String)
  | block (ruleIds : List String)
  | scan (taskId : String)
  | ticket (orderId : String)

def httpOk (response : VendorResponse) : Bool :=
  200 ≤ response.httpStatus && response.httpStatus < 300

def explicitBusinessFailure (response : VendorResponse) : Bool :=
  response.businessCode == some "Failed" || response.businessCode == some "InvalidParameter"

section Readers

variable (texts : Texts)

def asInt : Json → Option Int
  | .int value => some value
  | .str value =>
    let digits := (strip value).toList.dropWhile (· == '-')
    if !digits.isEmpty && digits.all Char.isDigit then texts.int (strip value) else none
  | _ => none

def asText (value : Json) : Option String :=
  if value.isNone || strip (value.text texts) == "" then none else some (strip (value.text texts))

section

variable (response : VendorResponse) (data : Json)

/-- `data.get(key)` of a dictionary, where it is a list. -/
def listField (key : String) : List Json :=
  (data.asDict.bind fun fields => (Json.get fields key).asList).getD []

def blockItems : List Json.Fields := (listField data "item").filterMap Json.asDict

/-- The first item of the object, or else the only item, whatever object it is of. -/
def listStatusFor (objectId : String) : Option Int :=
  match (blockItems data).find? fun item => (Json.get item "uuId").text texts == objectId with
  | some item => asInt texts (Json.get item "dealStatus")
  | none =>
    match listField data "item" with
    | [.dict item] => asInt texts (Json.get item "dealStatus")
    | _ => none

def dealstatusReadbackWouldConfirm (snapshot : WriteSnapshot) (listed : Option Int) : Bool :=
  !snapshot.usedIncidentsList && snapshot.writeCode == some "Success" &&
    snapshot.succeededNum.isSome && snapshot.succeededNum == snapshot.total &&
    (expectedLibrary snapshot.target).isSome && listed == expectedLibrary snapshot.target

def itemId (item : Json.Fields) : String :=
  if (Json.get item "id").truthy then (Json.get item "id").text texts else ""

/-- The status of the first item that carries a rule id, or of the only item. -/
def blockStatus (ruleIds : List String) : Option String :=
  let items := blockItems data
  (items.find? fun item => itemId texts item ∈ ruleIds || items.length == 1).bind fun item =>
    if (Json.get item "status").isNone then none else some ((Json.get item "status").text texts)

def hostScanFailed (items : List Json.Fields) : Bool :=
  items.any fun item =>
    asText texts (Json.get item "scanStatus") ∈ [some "scanFailed", some "sendingFailed"]

/-- The items of an order list, under either of its keys. -/
def orderItems : List Json.Fields :=
  data.asDict.elim [] fun fields =>
    listField data (if (Json.get fields "item").truthy then "item" else "list") |>.filterMap
      Json.asDict

/-- A `CONFIRMED` read-back, or a completion that is `verified`. -/
def confirms : Query → Bool
  | .dealstatus snapshot objectId =>
    dealstatusReadbackWouldConfirm snapshot (listStatusFor texts response.data objectId)
  | .block ruleIds => blockStatus texts response.data ruleIds == some "block success"
  | .scan _ =>
    httpOk response && !explicitBusinessFailure response &&
      (response.data.asDict.bind fun fields => asText texts (Json.get fields "status"))
        == some "completed" &&
      !hostScanFailed texts (blockItems response.data)
  | .ticket orderId =>
    httpOk response && response.businessCode == some "Success" &&
      (orderItems response.data).any fun item =>
        asText texts (Json.get item "orderId") == some orderId

/-! ### The adapter -/

/-- A receipt, as far as its completion is read: whether it was accepted, and its raw result. -/
structure DispositionReceipt where
  accepted : Bool
  rawResult : Json.Fields

def completionQuery (cmd : DispositionCommand) (receipt : DispositionReceipt) : Option Query :=
  match cmd.params with
  | .setEventDisposition _ | .recordCompensation => none
  | .submitEntityAction code canonicalTarget =>
    let raw := receipt.rawResult
    if !receipt.accepted then none
    else match code with
      | .createTicket => do
        let _ ← parseTarget "ticket" canonicalTarget
        return .ticket (← asText texts (Json.get raw "orderId"))
      | .scanHostForVirus => do
        let _ ← parseTarget "host" canonicalTarget
        return .scan (← asText texts (Json.get raw "taskId"))
      | .blockIp | .blockDomain => do
        let _ ← parseTarget (if code = .blockIp then "ip" else "domain") canonicalTarget
        let ids := ((Json.get raw "ids").asList.getD []).map (Json.text texts)
        if ids = [] then none else some (.block ids)
      | .other => none

/-- `confirm_readback` and `read_entity_effect_completion`: the adapter confirms the command. No
response stands for a timeout. -/
def confirmed (cmd : DispositionCommand) (snapshot : Option WriteSnapshot)
    (receipt : Option DispositionReceipt) (response : Option VendorResponse) : Option Query :=
  let query := match receipt with
    | none => snapshot.map fun snapshot => Query.dealstatus snapshot cmd.sourceObjectId
    | some receipt => completionQuery texts cmd receipt
  query.filter fun query => response.any fun response => confirms texts response query

/-! ### What a confirmation says -/

/-- The answer is a success that holds the asked object with the status it was asked for. A scan is
asked for by the path, so that its answer is the task's. -/
def About : Query → Prop
  | .dealstatus snapshot objectId =>
    httpOk response = true ∧ response.businessCode = some "Success" ∧
      ∃ item ∈ blockItems response.data, (Json.get item "uuId").text texts = objectId ∧
        asInt texts (Json.get item "dealStatus") = expectedLibrary snapshot.target
  | .block ruleIds =>
    httpOk response = true ∧ response.businessCode = some "Success" ∧ ∀ rule ∈ ruleIds,
      ∃ item ∈ blockItems response.data, itemId texts item = rule ∧
        (Json.get item "status").text texts = "block success"
  | .scan _ =>
    httpOk response = true ∧ explicitBusinessFailure response = false ∧
      (∃ fields ∈ response.data.asDict,
        asText texts (Json.get fields "status") = some "completed") ∧
      hostScanFailed texts (blockItems response.data) = false
  | .ticket orderId =>
    httpOk response = true ∧ response.businessCode = some "Success" ∧
      ∃ item ∈ orderItems response.data, asText texts (Json.get item "orderId") = some orderId

/-- The same, where a block need hold one of its rules only: the first that is listed decides. -/
def AboutOne : Query → Prop
  | .block ruleIds => ∃ rule ∈ ruleIds, About texts response (.block [rule])
  | query => About texts response query

/-- A list query is answered with success, and an item that is alone there is the asked one. -/
def Plain : Query → Prop
  | .dealstatus _ objectId =>
    httpOk response = true ∧ response.businessCode = some "Success" ∧
      ∀ item, listField response.data "item" = [.dict item] →
        (Json.get item "uuId").text texts = objectId
  | .block ruleIds =>
    httpOk response = true ∧ response.businessCode = some "Success" ∧
      ∀ item, blockItems response.data = [item] → itemId texts item ∈ ruleIds
  | .scan _ | .ticket _ => True

end

variable {texts}

theorem listStatusFor_eq_some {data : Json} {objectId : String} {status : Int}
    (own : ∀ item, listField data "item" = [.dict item] →
      (Json.get item "uuId").text texts = objectId)
    (listed : listStatusFor texts data objectId = some status) :
    ∃ item ∈ blockItems data, (Json.get item "uuId").text texts = objectId ∧
      asInt texts (Json.get item "dealStatus") = some status := by
  unfold listStatusFor at listed
  split at listed
  · rename_i item found
    exact ⟨item, List.mem_of_find?_eq_some found, by simpa using List.find?_some found, listed⟩
  split at listed
  · rename_i item only
    exact ⟨item, by simp [blockItems, only, Json.asDict], own item only, listed⟩
  · cases listed

theorem blockStatus_eq_some {data : Json} {ruleIds : List String} {status : String}
    (own : ∀ item, blockItems data = [item] → itemId texts item ∈ ruleIds)
    (known : blockStatus texts data ruleIds = some status) :
    ∃ item ∈ blockItems data, itemId texts item ∈ ruleIds ∧
      (Json.get item "status").text texts = status := by
  obtain ⟨item, found, shown⟩ := Option.bind_eq_some_iff.mp known
  have mem := List.mem_of_find?_eq_some found
  have asked : itemId texts item ∈ ruleIds := by
    have chosen := List.find?_some found
    simp only [Bool.or_eq_true, decide_eq_true_eq, beq_iff_eq] at chosen
    obtain carried | alone := chosen
    · exact carried
    · obtain ⟨only, listed⟩ := List.length_eq_one_iff.mp alone
      obtain rfl := List.mem_singleton.mp (listed ▸ mem)
      exact own item listed
  split at shown
  · cases shown
  · exact ⟨item, mem, asked, Option.some.inj shown⟩

theorem about_of_confirms {response : VendorResponse} {query : Query}
    (plain : Plain texts response query) (holds : confirms texts response query = true) :
    AboutOne texts response query := by
  cases query with
  | dealstatus =>
    obtain ⟨http, business, own⟩ := plain
    simp only [confirms, dealstatusReadbackWouldConfirm, Bool.and_eq_true, beq_iff_eq] at holds
    obtain ⟨⟨_, known⟩, listed⟩ := holds
    obtain ⟨_, expected⟩ := Option.isSome_iff_exists.mp known
    obtain ⟨item, mem, named, status⟩ := listStatusFor_eq_some own (listed.trans expected)
    exact ⟨http, business, item, mem, named, status.trans expected.symm⟩
  | block =>
    obtain ⟨http, business, own⟩ := plain
    obtain ⟨item, mem, asked, status⟩ := blockStatus_eq_some own (beq_iff_eq.mp holds)
    refine ⟨_, asked, http, business, fun rule only => ?_⟩
    exact ⟨item, mem, (List.mem_singleton.mp only).symm, status⟩
  | scan =>
    simp only [confirms, Bool.and_eq_true, Bool.not_eq_true', beq_iff_eq] at holds
    obtain ⟨⟨⟨http, business⟩, status⟩, hosts⟩ := holds
    obtain ⟨fields, dict, completed⟩ := Option.bind_eq_some_iff.mp status
    exact ⟨http, business, ⟨fields, dict, completed⟩, hosts⟩
  | ticket =>
    simp only [confirms, Bool.and_eq_true, beq_iff_eq, List.any_eq_true] at holds
    obtain ⟨⟨http, business⟩, item, mem, named⟩ := holds
    exact ⟨http, business, item, mem, named⟩

/-- **Confirmations are about the commanded object**, for every command, snapshot and receipt, and
every answer that is plain, whatever else it lists. -/
theorem confirmations_about_object (cmd : DispositionCommand) (snapshot : Option WriteSnapshot)
    (receipt : Option DispositionReceipt) (response : VendorResponse) :
    ∀ query ∈ confirmed texts cmd snapshot receipt (some response),
      Plain texts response query → AboutOne texts response query := by
  intro _ holds plain
  exact about_of_confirms plain (Option.filter_eq_some_iff.mp holds).2

end Readers

/-- An answer that lists incidents as contained. -/
def listing (uuIds : List String) : VendorResponse :=
  ⟨200, some "Success", .dict [("item",
    .list (uuIds.map fun uuId => .dict [("uuId", .str uuId), ("dealStatus", .int 6)]))]⟩

def plainTexts : Texts := ⟨fun _ => none, fun _ => none, fun _ => ""⟩

def containedWrite : WriteSnapshot := ⟨some "Success", some 1, some 1, .contained, false⟩

theorem confirmations_about_object_contained :
    About plainTexts (listing ["other", "incident"]) (.dealstatus containedWrite "incident") :=
  confirmations_about_object ⟨"incident", none, .setEventDisposition .contained⟩
    (some containedWrite) none (listing ["other", "incident"])
    (.dealstatus containedWrite "incident") rfl ⟨rfl, rfl, fun _ alone => nomatch alone⟩

/-- An answer whose only item is another incident confirms the write. -/
theorem confirmed_about_another :
    ∃ query ∈ confirmed plainTexts ⟨"incident", none, .setEventDisposition .contained⟩
        (some containedWrite) none (some (listing ["other"])),
      ¬ About plainTexts (listing ["other"]) query := by
  refine ⟨.dealstatus containedWrite "incident", rfl, ?_⟩
  rintro ⟨-, -, _, listed, named, -⟩
  obtain rfl := List.mem_singleton.mp listed
  exact absurd named (by decide)

end ShadowTrace.Sangfor
