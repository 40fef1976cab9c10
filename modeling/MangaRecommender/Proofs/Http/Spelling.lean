import Mathlib
import MangaRecommender.Proofs.Http.Gateway
import MangaRecommender.Proofs.Service.Replies
import MangaRecommender.Proofs.Uuid

/-!
# Keys for users in any spelling

A request names its user in one of several spellings, and the keys that it addresses are written
from the identifier that was read.  So they are the same for all spellings of a user, and they are
keys of nobody else, since their texts tell users and collections apart.
-/

namespace MangaRecommender

/-- The keys that a call of the cache names. -/
def CacheCall.keys : CacheCall → List String
  | get key | set key _ | delete key => [key]
  | deleteMany keys => keys

theorem CacheKey.text_eq_iff {left right : CacheKey} :
    left.text = right.text ↔ left.user = right.user ∧ left.collection = right.collection := by
  constructor
  · intro htext
    obtain rfl := text_injective htext
    exact ⟨rfl, rfl⟩
  · rintro ⟨huser, hcollection⟩
    cases left
    cases right
    cases huser
    cases hcollection
    rfl

/-! ## The keys of the service's calls -/

theorem Cache.mem_keys_evictionCalls {keys : List CacheKey} {call : CacheCall} {text : String}
    (hcall : call ∈ evictionCalls keys) (htext : text ∈ call.keys) :
    ∃ key ∈ keys, text = key.text := by
  match keys with
  | [] => cases hcall
  | [key] =>
    obtain rfl := List.mem_singleton.1 hcall
    exact ⟨key, List.mem_cons_self, List.mem_singleton.1 htext⟩
  | first :: second :: rest =>
    obtain rfl := List.mem_singleton.1 hcall
    obtain ⟨key, hkey, rfl⟩ := List.mem_map.1 htext
    exact ⟨key, hkey, rfl⟩

namespace Service

variable (limits : Limits) (repository : Repository) (cache : Cache) {user : Uuid}
  {collection : Int32}

theorem keys_forCollection {call : CacheCall}
    (hcall : call ∈ (forCollection limits repository cache user collection).cacheCalls) :
    call.keys = [CacheKey.text ⟨user, collection⟩] := by
  unfold forCollection at hcall
  simp only [Repository.lookUpOwner] at hcall
  split at hcall
  · cases hcall
  · cases hcall
  · split at hcall
    · rw [List.mem_singleton.1 hcall]
      rfl
    · rcases List.mem_cons.1 hcall with rfl | hgenerated
      · rfl
      · unfold generate at hgenerated
        simp only at hgenerated
        split at hgenerated
        · cases hgenerated
        · rw [List.mem_singleton.1 hgenerated]
          rfl

/-- The cache is asked once the owner is known. -/
theorem get_mem_forCollection (howns : repository.owns user collection = .ok true) :
    .get (CacheKey.text ⟨user, collection⟩) ∈
      (forCollection limits repository cache user collection).cacheCalls := by
  unfold forCollection
  simp only [Repository.lookUpOwner, howns]
  split
  · exact List.mem_cons_self
  · exact List.mem_cons_self

theorem keys_invalidateUser {call : CacheCall} {text : String}
    (hcall : call ∈ (invalidateUser repository cache user).cacheCalls)
    (htext : text ∈ call.keys) : ∃ collection, text = CacheKey.text ⟨user, collection⟩ := by
  cases hcollections : repository.userCollections user with
  | error failure =>
    rw [invalidateUser_of_error repository cache hcollections] at hcall
    cases hcall
  | ok collections =>
    rw [invalidateUser_of_ok repository cache hcollections] at hcall
    obtain ⟨key, hkey, rfl⟩ := Cache.mem_keys_evictionCalls hcall htext
    obtain ⟨collection, -, rfl⟩ := List.mem_map.1 hkey
    exact ⟨collection, rfl⟩

end Service

namespace Http

/-! ## Requests that name a user -/

namespace Request

/-- The first header for the user spells this one. -/
def NamesUser (request : Request) (user : Uuid) : Prop :=
  ∃ value, request.header? "x-user-id" = some value ∧ user.Spells value.toList

/-- The path leads to an endpoint that is about this collection. -/
def NamesCollection (request : Request) (collection : Int32) : Prop :=
  ∃ segment, collectionOf segment = .ok collection ∧
    (Endpoint.ofPath? request.target.path = some (.collection segment) ∨
      Endpoint.ofPath? request.target.path = some (.collectionCache segment))

/-- The requests are the same in everything but the header for the user. -/
structure AgreesButForUser (first second : Request) : Prop where
  method : first.method = second.method
  target : first.target = second.target
  body : first.body = second.body
  client : first.client = second.client
  header : ∀ name, name ≠ "x-user-id" → first.header? name = second.header? name

theorem user_eq_ok_iff {request : Request} {user : Uuid} :
    request.user = .ok user ↔ request.NamesUser user := by
  unfold Request.user NamesUser
  cases request.header? "x-user-id" with
  | none => simp
  | some value =>
    simp only [Option.some.injEq, exists_eq_left', ← Uuid.ofText?_eq_some_iff]
    cases Uuid.ofText? value.toList <;> simp

variable {first second : Request} (hagrees : first.AgreesButForUser second)
include hagrees

theorem AgreesButForUser.ofRequest_eq (huser : first.user = second.user) (endpoint : Endpoint) :
    Task.ofRequest endpoint first = Task.ofRequest endpoint second := by
  have hparameters : first.listParameters = second.listParameters := by
    rw [listParameters, listParameters, hagrees.target]
  have hids : first.seedIds = second.seedIds := by
    rw [seedIds, seedIds, hagrees.header "content-type" (by decide), hagrees.body]
  cases endpoint <;> simp only [Task.ofRequest, huser, hparameters, hids]

/-- Of the header for the user, only the user matters. -/
theorem AgreesButForUser.handle_eq (huser : first.user = second.user) (limits : Limits)
    (repository : Repository) (state : State) :
    handle limits repository state first = handle limits repository state second := by
  simp only [handle, dispatch, serve, charge, allowHeader, leavesBodyOut, hagrees.method,
    hagrees.target, hagrees.client, hagrees.ofRequest_eq huser]

end Request

/-! ## The keys that a request addresses -/

/-- What a request that names a user addresses in the cache. -/
structure AddressesOwnKeys (limits : Limits) (repository : Repository) (state : State)
    (request : Request) (user : Uuid) (exchange : Exchange) : Prop where
  identified : request.user = .ok user
  /-- All keys are keys of the user. -/
  own : ∀ call ∈ exchange.cacheCalls, ∀ text ∈ call.keys,
    ∃ collection, text = CacheKey.text ⟨user, collection⟩
  /-- There is one key for each collection. -/
  collection : ∀ collection, request.NamesCollection collection →
    ∀ call ∈ exchange.cacheCalls, call.keys = [CacheKey.text ⟨user, collection⟩]
  /-- The owner's request for recommendations asks for the key, if it is admitted and read. -/
  asked : ∀ segment collection parameters,
    Endpoint.ofPath? request.target.path = some (.collection segment) →
    collectionOf segment = .ok collection → request.listParameters = .ok parameters →
    request.method ∈ ["GET", "HEAD"] → (charge state (.collection segment) request).1 = true →
    repository.owns user collection = .ok true →
    .get (CacheKey.text ⟨user, collection⟩) ∈ exchange.cacheCalls
  /-- A request to forget a collection deletes the key. -/
  deleted : ∀ segment collection,
    Endpoint.ofPath? request.target.path = some (.collectionCache segment) →
    collectionOf segment = .ok collection → request.method = "DELETE" →
    exchange.cacheCalls = [.delete (CacheKey.text ⟨user, collection⟩)]
  /-- In any other spelling of the user, the same request makes the same exchange. -/
  respelled : ∀ other : Request, other.NamesUser user → other.AgreesButForUser request →
    handle limits repository state other = exchange

section Requests

variable (limits : Limits) (repository : Repository) (state : State) {request : Request}
  {user : Uuid} {collection : Int32}

theorem keys_handle (huser : request.user = .ok user) {call : CacheCall}
    (hcall : call ∈ (handle limits repository state request).cacheCalls) :
    (∀ text ∈ call.keys, ∃ collection, text = CacheKey.text ⟨user, collection⟩) ∧
      ∀ collection, request.NamesCollection collection →
        call.keys = [CacheKey.text ⟨user, collection⟩] := by
  cases handle_passage limits repository state request with
  | turnedAway hcache hcacheCalls =>
    rw [hcacheCalls] at hcall
    cases hcall
  | performed endpoint task hendpoint hadmitted hmethod hasks hexchange =>
    rw [hexchange, Exchange.seen_cacheCalls] at hcall
    cases hasks with
    | health => cases hcall
    | list => cases hcall
    | @collection segment named asked parameters hnamed hasked =>
      obtain rfl : user = named := Except.ok.inj (huser.symm.trans hnamed)
      have hkeys := Service.keys_forCollection limits repository _ hcall
      refine ⟨fun text htext => ?_, ?_⟩
      · rw [hkeys] at htext
        exact ⟨asked, List.mem_singleton.1 htext⟩
      · rintro collection ⟨other, hcollection, hpath⟩
        rw [hendpoint] at hpath
        obtain rfl : segment = other := by simpa using hpath
        obtain rfl : asked = collection := Except.ok.inj (hasked.symm.trans hcollection)
        exact hkeys
    | @userCache named hnamed =>
      obtain rfl : user = named := Except.ok.inj (huser.symm.trans hnamed)
      refine ⟨fun text htext => Service.keys_invalidateUser repository _ hcall htext, ?_⟩
      rintro collection ⟨other, hcollection, hpath⟩
      simp [hendpoint] at hpath
    | @collectionCache segment named forgotten hnamed hforgotten =>
      obtain rfl : user = named := Except.ok.inj (huser.symm.trans hnamed)
      obtain rfl := List.mem_singleton.1 hcall
      refine ⟨fun text htext => ⟨forgotten, List.mem_singleton.1 htext⟩, ?_⟩
      rintro collection ⟨other, hcollection, hpath⟩
      rw [hendpoint] at hpath
      obtain rfl : segment = other := by simpa using hpath
      obtain rfl : forgotten = collection := Except.ok.inj (hforgotten.symm.trans hcollection)
      rfl

theorem get_mem_handle {segment : String} {parameters : ListParameters}
    (huser : request.user = .ok user)
    (hendpoint : Endpoint.ofPath? request.target.path = some (.collection segment))
    (hcollection : collectionOf segment = .ok collection)
    (hparameters : request.listParameters = .ok parameters)
    (hmethod : request.method ∈ ["GET", "HEAD"])
    (hadmitted : (charge state (.collection segment) request).1 = true)
    (howns : repository.owns user collection = .ok true) :
    .get (CacheKey.text ⟨user, collection⟩) ∈
      (handle limits repository state request).cacheCalls := by
  rw [handle_of_asks limits repository state hendpoint hadmitted hmethod
    (.collection huser hcollection hparameters), Exchange.seen_cacheCalls]
  exact Service.get_mem_forCollection limits repository _ howns

theorem cacheCalls_of_delete {segment : String} (huser : request.user = .ok user)
    (hendpoint : Endpoint.ofPath? request.target.path = some (.collectionCache segment))
    (hcollection : collectionOf segment = .ok collection) (hmethod : request.method = "DELETE") :
    (handle limits repository state request).cacheCalls =
      [.delete (CacheKey.text ⟨user, collection⟩)] := by
  rw [handle_of_asks limits repository state hendpoint rfl (List.mem_singleton.2 hmethod)
    (.collectionCache huser hcollection), Exchange.seen_cacheCalls]
  rfl

theorem addressesOwnKeys_handle (hnames : request.NamesUser user) :
    AddressesOwnKeys limits repository state request user
      (handle limits repository state request) := by
  have huser : request.user = .ok user := Request.user_eq_ok_iff.2 hnames
  constructor
  · exact huser
  · exact fun call hcall => (keys_handle limits repository state huser hcall).1
  · exact fun collection hnamed call hcall =>
      (keys_handle limits repository state huser hcall).2 collection hnamed
  · intro segment collection parameters hendpoint hcollection hparameters hmethod hadmitted howns
    exact get_mem_handle limits repository state huser hendpoint hcollection hparameters hmethod
      hadmitted howns
  · intro segment collection hendpoint hcollection hmethod
    exact cacheCalls_of_delete limits repository state huser hendpoint hcollection hmethod
  · intro other hother hagrees
    have hsame : other.user = request.user := (Request.user_eq_ok_iff.2 hother).trans huser.symm
    exact hagrees.handle_eq hsame limits repository state

end Requests

/-- Two keys have the same text only if they have the same user and the same collection, and the
spelling of a user, of which exactly these are read and the written form is one, makes no difference
to the keys that a request addresses. -/
theorem keys_identify_user_and_collection :
    (∀ left right : CacheKey, left.text = right.text ↔
      left.user = right.user ∧ left.collection = right.collection) ∧
    (∀ (user : Uuid) (text : List Char), Uuid.ofText? text = some user ↔ user.Spells text) ∧
    (∀ user : Uuid, user.Spells user.text) ∧
    ∀ (limits : Limits) (repository : Repository) (state : State) (request : Request)
      (user : Uuid), request.NamesUser user →
      AddressesOwnKeys limits repository state request user
        (handle limits repository state request) := by
  refine ⟨?_, ?_, Uuid.spells_text, ?_⟩
  · intro left right
    exact CacheKey.text_eq_iff
  · intro user text
    exact Uuid.ofText?_eq_some_iff
  · intro limits repository state request user hnames
    exact addressesOwnKeys_handle limits repository state hnames

/-! ### One user in two spellings -/

/-- A user whose identifier has letters. -/
def lettered : Uuid := ⟨0xabcdef, by decide⟩

/-- A request of that user about a collection with a negative number. -/
def letteredRequest (method path user : String) : Request where
  method := method
  target := ⟨path.toList, []⟩
  headers := [("X-User-Id", user)]
  body := ""
  client := .v4 [127, 0, 0, 1]

def bracedGet : Request :=
  letteredRequest "GET" "/api/v1/recommendations/-10" "{00000000-0000-0000-0000-000000ABCDEF}"

def plainGet : Request :=
  letteredRequest "GET" "/api/v1/recommendations/-10" "00000000000000000000000000aBcDeF"

def urnDelete : Request :=
  letteredRequest "DELETE" "/api/v1/recommendations/-10/cache"
    "URN:uuid:00000000-0000-0000-0000-000000abcdef"

/-- A catalogue with that collection. -/
def letteredTables : Tables := ⟨[], fun _ => [], [⟨-10, lettered, [1]⟩], none⟩

theorem keys_identify_user_and_collection_twoSpellings :
    bracedGet.NamesUser lettered ∧ plainGet.NamesUser lettered ∧ urnDelete.NamesUser lettered ∧
      (let exchange := handle ⟨5, 5⟩ (letteredTables.repository .none) ⟨.empty, .ofLimits 5 5⟩
      .get (CacheKey.text ⟨lettered, -10⟩) ∈ (exchange bracedGet).cacheCalls ∧
      (∀ call ∈ (exchange bracedGet).cacheCalls, call.keys = [CacheKey.text ⟨lettered, -10⟩]) ∧
      exchange plainGet = exchange bracedGet ∧
      (exchange urnDelete).cacheCalls = [.delete (CacheKey.text ⟨lettered, -10⟩)]) := by
  have hbraced : bracedGet.NamesUser lettered := Request.user_eq_ok_iff.1 (by decide +kernel)
  have hplain : plainGet.NamesUser lettered := Request.user_eq_ok_iff.1 (by decide +kernel)
  have hurn : urnDelete.NamesUser lettered := Request.user_eq_ok_iff.1 (by decide +kernel)
  have haddresses := keys_identify_user_and_collection.2.2.2 ⟨5, 5⟩ (letteredTables.repository .none)
    ⟨.empty, .ofLimits 5 5⟩
  have hendpoint : Endpoint.ofPath? bracedGet.target.path = some (.collection "-10") := by
    decide +kernel
  have hcollection : collectionOf "-10" = .ok (-10) := by decide +kernel
  have hagrees : plainGet.AgreesButForUser bracedGet := by
    have hlower : Text.lowercase "X-User-Id" = "x-user-id" := by decide +kernel
    refine ⟨rfl, rfl, rfl, rfl, fun name hname => ?_⟩
    simp [Request.header?, plainGet, bracedGet, letteredRequest, hlower, hname.symm]
  refine ⟨hbraced, hplain, hurn, ?_, ?_, ?_, ?_⟩
  · exact (haddresses _ _ hbraced).asked "-10" (-10) .standard hendpoint hcollection
      (by decide +kernel) (by decide) (by decide +kernel) (by decide +kernel)
  · exact (haddresses _ _ hbraced).collection (-10) ⟨"-10", hcollection, .inl hendpoint⟩
  · exact (haddresses _ _ hbraced).respelled plainGet hplain hagrees
  · exact (haddresses _ _ hurn).deleted "-10" (-10) (by decide +kernel) hcollection rfl

end Http

end MangaRecommender
