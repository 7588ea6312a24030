import RoqBinance.Protocol.Json.MarketStreamParser

/-! The keys of a market-data message may come in any order, with keys between them that the
parser does not know: two iterations find what a reader finds that looks its keys up. -/
namespace RoqBinance.Protocol.Json
open Library (Json Member Codec)

namespace MarketStreamParser

/-- The types of the members; the data of each stream has a dictionary of its own. -/
inductive MemberType
  | errorError | stringViews | int64 | stringView | data (callback : Callback)
  deriving DecidableEq, Repr

def Callback.members : Callback → List (Member MemberType)
  | error => [⟨"error","error",.errorError⟩,⟨"id","id",.int64⟩]
  | result => [⟨"result","result",.stringViews⟩,⟨"id","id",.int64⟩]
  | serverShutdown => [⟨"stream","stream",.stringView⟩,⟨"data","data",.data .serverShutdown⟩]
  | aggTrade => [⟨"stream","stream",.stringView⟩,⟨"data","data",.data .aggTrade⟩]
  | trade => [⟨"stream","stream",.stringView⟩,⟨"data","data",.data .trade⟩]
  | miniTicker => [⟨"stream","stream",.stringView⟩,⟨"data","data",.data .miniTicker⟩]
  | bookTicker => [⟨"stream","stream",.stringView⟩,⟨"data","data",.data .bookTicker⟩]
  | depth => [⟨"stream","stream",.stringView⟩,⟨"data","data",.data .depth⟩]
  | depthUpdate => [⟨"stream","stream",.stringView⟩,⟨"data","data",.data .depthUpdate⟩]

def Parsers.ofDictionaries {V : Type} (e : EnumParsers) (c : Codec MemberType V)
    (int64 : Json → Option ℤ) : Parsers (List V) where
  toEnumParsers := e
  parse callback message := c.parse message callback.members
  int64 := int64

section
variable {V : Type} (p : Parsers V) (message : Json.Object) (allowUnknownEventTypes : Bool)

/-- What the data of a stream comes to. -/
def onData (symbol : String) (stream : Stream) : Outcome V :=
  match stream with
  | .undefinedInternal => .fatal
  | .unknownInternal => if allowUnknownEventTypes then .skipped else .fatal
  | .serverShutdown => dispatchHelper p message .serverShutdown none none
  | .aggTrade => dispatchHelper p message .aggTrade none none
  | .trade => dispatchHelper p message .trade none none
  | .miniTicker => dispatchHelper p message .miniTicker none none
  | .bookTicker => dispatchHelper p message .bookTicker none none
  | .depth5 => dispatchHelper p message .depth none (some symbol)
  | .depth10 => dispatchHelper p message .depth none (some symbol)
  | .depth20 => dispatchHelper p message .depth none (some symbol)
  | .depth => dispatchHelper p message .depthUpdate none none

/-- A reader to which the order of the keys means nothing. -/
def lookup : Outcome V :=
  match Json.first "stream" message with
  | some (.string name) =>
    match parseStream p.toEnumParsers name with
    | some (symbol,stream) => onData p message allowUnknownEventTypes symbol stream
    | none => .fatal
  | _ =>
    match (Json.first "id" message).bind p.int64 with
    | some id =>
      if (Json.first "error" message).isSome then dispatchHelper p message .error (some id) none
      else dispatchHelper p message .result (some id) none
    | none => .fatal

end

/-- The keys that a message is told apart by. -/
inductive Heads (int64 : Json → Option ℤ) : Json.Object → Prop
  | error {v w : Json} {id : ℤ} (h : int64 v = some id) (hid : 0 ≤ id) :
    Heads int64 [("id",v),("error",w)]
  | result {v w : Json} {id : ℤ} (h : int64 v = some id) (hid : 0 ≤ id) :
    Heads int64 [("id",v),("result",w)]
  | data {name : String} {v : Json} (h : '@' ∈ name.toList ∨ name.toList.head? = some '!') :
    Heads int64 [("stream",.string name),("data",v)]

def Unrecognised (e : EnumParsers) (rest : Json.Object) : Prop :=
  ∀ x ∈ rest, e.field.ofText x.1 = .unknownInternal

/-- The keys of a message that the parser knows. -/
def recognised (e : EnumParsers) (message : Json.Object) : Json.Object :=
  message.filter fun x => e.field.ofText x.1 ≠ .unknownInternal

theorem first_recognised (e : EnumParsers) {key : String}
    (hkey : e.field.ofText key ≠ .unknownInternal) (message : Json.Object) :
    Json.first key (recognised e message) = Json.first key message :=
  Json.first_filter (q := fun key => e.field.ofText key ≠ .unknownInternal) (by simpa using hkey)
    message

/-- A name with a symbol or of a stream without one does not end the process. -/
theorem exists_parseStream (e : EnumParsers) {name : String}
    (h : '@' ∈ name.toList ∨ name.toList.head? = some '!') :
    ∃ symbol stream, parseStream e name = some (symbol,stream) := by
  unfold parseStream
  by_cases hat : '@' ∈ name.toList
  · rw [if_pos hat]
    exact ⟨_,_,rfl⟩
  · rw [if_neg hat,if_pos (h.resolve_left hat)]
    exact ⟨_,_,rfl⟩

section
variable {V : Type} (p : Parsers V) (message : Json.Object) (allow : Bool)

/-- An iteration passes over the keys that the parser does not know. -/
theorem iterate_eq (s : State) :
    iterate p message allow s =
      (recognised p.toEnumParsers message).foldlM (onKey p message allow) s := by
  rw [iterate,recognised,List.foldlM_filter]
  congr 1
  funext s x
  by_cases hx : p.field.ofText x.1 = .unknownInternal
  · simp [onKey, hx]
    rfl
  · simp [hx]

/-- The stream decides what its data comes to. -/
def Stream.settled (allow : Bool) : Stream → Bool
  | .undefinedInternal => false
  | .unknownInternal => allow
  | _ => true

theorem onKey_data (s : State) (v : Json) :
    onKey p message allow s ("data",v) =
      if Stream.settled allow s.stream then .error (onData p message allow s.symbol s.stream)
      else .ok s := by
  obtain ⟨id,symbol,stream⟩ := s
  rw [onKey,p.field_data]
  cases stream <;> cases allow <;> rfl

/-- Data that decides nothing leaves the message to the end of the iterations. -/
theorem onData_of_not_settled {stream : Stream} (h : Stream.settled allow stream = false)
    (symbol : String) : onData p message allow symbol stream = .fatal := by
  cases stream <;> simp_all [Stream.settled, onData]

theorem onKey_stream {name symbol : String} {stream : Stream}
    (h : parseStream p.toEnumParsers name = some (symbol,stream)) (s : State) :
    onKey p message allow s ("stream",.string name) =
      .ok {s with symbol := symbol, stream := stream} := by
  simp [onKey, h]

theorem onKey_id {v : Json} {id : ℤ} (h : p.int64 v = some id) (s : State) :
    onKey p message allow s ("id",v) = .ok {s with id := id} := by
  simp [onKey, h]

theorem onKey_error (s : State) (v : Json) :
    onKey p message allow s ("error",v) =
      if 0 ≤ s.id then .error (dispatchHelper p message .error (some s.id) none) else .ok s := by
  simp [onKey]

theorem onKey_result (s : State) (v : Json) :
    onKey p message allow s ("result",v) =
      if 0 ≤ s.id then .error (dispatchHelper p message .result (some s.id) none) else .ok s := by
  simp [onKey]

variable {p message allow}

/-- One key sets what the other is decided by: if the deciding key comes first it is passed over,
and decided by the second iteration. -/
theorem dispatch_pair {a b : String × Json} {set : State → State} {outcome : Outcome V}
    (h : recognised p.toEnumParsers message = [a,b] ∨ recognised p.toEnumParsers message = [b,a])
    (ha : ∀ s, onKey p message allow s a = .ok (set s))
    (hb : onKey p message allow ⟨-1,"",.undefinedInternal⟩ b = .ok ⟨-1,"",.undefinedInternal⟩)
    (hset : (∀ s, onKey p message allow (set s) b = .error outcome) ∨
      outcome = .fatal ∧ ∀ s, onKey p message allow (set s) b = .ok (set s)) :
    dispatch p message allow = outcome := by
  unfold dispatch
  rcases h with h | h
  · rcases hset with hset | ⟨rfl,hset⟩
    · simp [iterate_eq, h, ha, hset, bind, Except.bind]
    · simp [iterate_eq, h, ha, hset, bind, Except.bind, pure, Except.pure]
  · rcases hset with hset | ⟨rfl,hset⟩
    · simp [iterate_eq, h, ha, hb, hset, bind, Except.bind, pure, Except.pure]
    · simp [iterate_eq, h, ha, hb, hset, bind, Except.bind, pure, Except.pure]

theorem first_pair {k k' : String} {v v' : Json}
    (h : recognised p.toEnumParsers message = [(k,v),(k',v')] ∨
      recognised p.toEnumParsers message = [(k',v'),(k,v)]) (hne : k ≠ k')
    (hk : p.field.ofText k ≠ .unknownInternal) : Json.first k message = some v := by
  rw [← first_recognised p.toEnumParsers hk]
  rcases h with h | h
  · simp [h, Json.first]
  · simp [h, Json.first, hne.symm]

theorem first_other {k k' key : String} {v v' : Json}
    (h : recognised p.toEnumParsers message = [(k,v),(k',v')] ∨
      recognised p.toEnumParsers message = [(k',v'),(k,v)])
    (hkey : p.field.ofText key ≠ .unknownInternal) (hk : k ≠ key) (hk' : k' ≠ key) :
    Json.first key message = none := by
  rw [← first_recognised p.toEnumParsers hkey]
  rcases h with h | h
  · simp [h, Json.first, hk, hk']
  · simp [h, Json.first, hk, hk']

/-- The iterations find what looking the keys up finds. -/
theorem dispatch_eq_lookup {a b : String × Json} (hh : Heads p.int64 [a,b])
    (h : recognised p.toEnumParsers message = [a,b] ∨ recognised p.toEnumParsers message = [b,a]) :
    dispatch p message allow = lookup p message allow := by
  cases hh with
  | @error v w id hv hid =>
    have hstream : Json.first "stream" message = none :=
      first_other h (by simp) (by decide) (by decide)
    have hfirst : Json.first "id" message = some v := first_pair h (by decide) (by simp)
    have herror : Json.first "error" message = some w := first_pair h.symm (by decide) (by simp)
    have hlookup : lookup p message allow = dispatchHelper p message .error (some id) none := by
      simp [lookup, hstream, hfirst, herror, hv]
    rw [hlookup]
    refine dispatch_pair h (onKey_id p message allow hv)
      ((onKey_error p message allow _ w).trans rfl) (.inl fun s => ?_)
    rw [onKey_error,if_pos hid]
  | @result v w id hv hid =>
    have hstream : Json.first "stream" message = none :=
      first_other h (by simp) (by decide) (by decide)
    have hfirst : Json.first "id" message = some v := first_pair h (by decide) (by simp)
    have herror : Json.first "error" message = none :=
      first_other h (by simp) (by decide) (by decide)
    have hlookup : lookup p message allow = dispatchHelper p message .result (some id) none := by
      simp [lookup, hstream, hfirst, herror, hv]
    rw [hlookup]
    refine dispatch_pair h (onKey_id p message allow hv)
      ((onKey_result p message allow _ w).trans rfl) (.inl fun s => ?_)
    rw [onKey_result,if_pos hid]
  | @data name v hname =>
    obtain ⟨symbol,stream,hn⟩ := exists_parseStream p.toEnumParsers hname
    have hfirst : Json.first "stream" message = some (.string name) :=
      first_pair h (by decide) (by simp)
    have hlookup : lookup p message allow = onData p message allow symbol stream := by
      simp [lookup, hfirst, hn]
    rw [hlookup]
    refine dispatch_pair h (onKey_stream p message allow hn)
      ((onKey_data p message allow _ v).trans rfl) ?_
    cases hs : Stream.settled allow stream with
    | true => exact .inl fun s => by rw [onKey_data,if_pos hs]
    | false =>
      refine .inr ⟨onData_of_not_settled p message allow hs symbol,fun s => ?_⟩
      rw [onKey_data,if_neg (by simp [hs])]

end

/-- The data of a stream, with its keys in either order. -/
theorem dispatch_named {V : Type} (p : Parsers V) (allow : Bool) {name symbol : String}
    {stream : Stream} {message : Json.Object}
    (h : parseStream p.toEnumParsers name = some (symbol,stream)) (hm : IsData name message) :
    dispatch p message allow = onData p message allow symbol stream := by
  have hname : '@' ∈ name.toList ∨ name.toList.head? = some '!' := by
    unfold parseStream at h
    dsimp only at h
    split_ifs at h with hat hbang
    · exact .inl hat
    · exact .inr hbang
  obtain ⟨data,hdata⟩ := isData_iff.mp hm
  have hrecognised : recognised p.toEnumParsers message = message := by
    rcases hdata with rfl | rfl
    · simp [recognised]
    · simp [recognised]
  have hlookup : dispatch p message allow = lookup p message allow := by
    refine dispatch_eq_lookup (a := ("stream",.string name)) (b := ("data",data)) (.data hname) ?_
    rw [hrecognised]
    exact hdata
  rw [hlookup]
  rcases hdata with rfl | rfl
  · simp [lookup, Json.first, h]
  · simp [lookup, Json.first, h]

section
variable {e : EnumParsers} {int64 : Json → Option ℤ} {heads rest message : Json.Object}

theorem recognised_heads (e : EnumParsers) (hh : Heads int64 heads) :
    recognised e heads = heads := by
  cases hh <;> simp [recognised]

theorem recognised_append (hh : Heads int64 heads) (hr : Unrecognised e rest) :
    recognised e (heads ++ rest) = heads := by
  have hrest : recognised e rest = [] := by
    rw [recognised,List.filter_eq_nil_iff]
    intro x hx
    simp [hr x hx]
  rw [recognised,List.filter_append]
  change recognised e heads ++ recognised e rest = heads
  rw [recognised_heads e hh,hrest,List.append_nil]

/-- The two keys stand in one of two orders. -/
theorem recognised_of_perm (hh : Heads int64 heads) (hr : Unrecognised e rest)
    (hp : message.Perm (heads ++ rest)) :
    ∃ a b : String × Json, heads = [a,b] ∧ a.1 ≠ b.1 ∧
      (recognised e message = [a,b] ∨ recognised e message = [b,a]) := by
  have hperm : (recognised e message).Perm heads := by
    have hfilter := hp.filter fun x => e.field.ofText x.1 ≠ .unknownInternal
    change (recognised e message).Perm (recognised e (heads ++ rest)) at hfilter
    rwa [recognised_append hh hr] at hfilter
  cases hh with
  | error _ _ => exact ⟨_,_,rfl,by simp,List.perm_pair.mp hperm⟩
  | result _ _ => exact ⟨_,_,rfl,by simp,List.perm_pair.mp hperm⟩
  | data _ => exact ⟨_,_,rfl,by simp,List.perm_pair.mp hperm⟩

theorem first_perm (hh : Heads int64 heads) (hr : Unrecognised e rest)
    (hp : message.Perm (heads ++ rest)) {key : String}
    (hkey : e.field.ofText key ≠ .unknownInternal) :
    Json.first key message = Json.first key (heads ++ rest) := by
  obtain ⟨⟨k,v⟩,⟨k',v'⟩,hheads,hne,h⟩ := recognised_of_perm hh hr hp
  rw [← first_recognised e hkey message,← first_recognised e hkey (heads ++ rest),
    recognised_append hh hr,hheads]
  rcases h with h | h
  · rw [h]
  · rw [h]
    simp only [Json.first]
    split_ifs with hk hk'
    · exact absurd (hk'.trans hk.symm) hne
    all_goals rfl

/-- A key that the parser knows is there at most once. -/
theorem length_filter_le_one (hh : Heads int64 heads) (hr : Unrecognised e rest) {key : String}
    (hkey : e.field.ofText key ≠ .unknownInternal) :
    ((heads ++ rest).filter fun x => x.1 = key).length ≤ 1 := by
  have hrest : (rest.filter fun x => x.1 = key) = [] := by
    rw [List.filter_eq_nil_iff]
    intro x hx he
    exact hkey (of_decide_eq_true he ▸ hr x hx)
  rw [List.filter_append,hrest,List.append_nil]
  cases hh <;> grind

theorem recognised_members (e : EnumParsers) (callback : Callback) :
    ∀ m ∈ callback.members, e.field.ofText m.key ≠ .unknownInternal := by
  cases callback <;> simp [Callback.members]

variable {V : Type} (c : Codec MemberType V)

/-- The object that a callback gets is the same in any order of the keys. -/
theorem dispatchHelper_perm (hh : Heads int64 heads) (hr : Unrecognised e rest)
    (hp : message.Perm (heads ++ rest)) (callback : Callback) (id : Option ℤ)
    (symbol : Option String) :
    dispatchHelper (.ofDictionaries e c int64) message callback id symbol =
      dispatchHelper (.ofDictionaries e c int64) (heads ++ rest) callback id symbol := by
  have hparse : c.parse message callback.members = c.parse (heads ++ rest) callback.members :=
    c.parse_perm hp fun m hm => length_filter_le_one hh hr (recognised_members e callback m hm)
  simp only [dispatchHelper, Parsers.ofDictionaries, hparse]

/-- A message comes to the same in any order of its keys, which is what looking them up comes to. -/
theorem dispatch_perm (allow : Bool) (hh : Heads int64 heads) (hr : Unrecognised e rest)
    (hp : message.Perm (heads ++ rest)) :
    dispatch (.ofDictionaries e c int64) message allow =
        dispatch (.ofDictionaries e c int64) (heads ++ rest) allow ∧
      dispatch (.ofDictionaries e c int64) message allow =
        lookup (.ofDictionaries e c int64) message allow := by
  have hlookup : ∀ message : Json.Object, message.Perm (heads ++ rest) →
      dispatch (.ofDictionaries e c int64) message allow =
        lookup (.ofDictionaries e c int64) message allow := by
    intro message hp
    obtain ⟨a,b,rfl,-,h⟩ := recognised_of_perm hh hr hp
    exact dispatch_eq_lookup hh h
  refine ⟨?_,hlookup message hp⟩
  rw [hlookup message hp,hlookup (heads ++ rest) (List.Perm.refl _)]
  have hstream := first_perm hh hr hp (by simp : e.field.ofText "stream" ≠ _)
  have hid := first_perm hh hr hp (by simp : e.field.ofText "id" ≠ _)
  have herror := first_perm hh hr hp (by simp : e.field.ofText "error" ≠ _)
  simp only [lookup, onData, hstream, hid, herror, dispatchHelper_perm c hh hr hp]

end

/-- Members that keep the text of strings and numbers, and of an error its message. -/
def textCodec : Codec MemberType String where
  default _ := ""
  get
    | .errorError, .object fields =>
      match Json.first "msg" fields with
      | some (.string msg) => some msg
      | _ => none
    | _, .string text => some text
    | _, .number text => some text
    | _, _ => none

def textInt64 : Json → Option ℤ
  | .number "5000001" => some 5000001
  | _ => none

def invalidRequest : Json :=
  .object [("code",.number "2"),("msg",.string "Invalid request: streams must be an array")]

/-- The error comes before the id, with an unknown key between them. -/
theorem dispatch_perm_error :
    dispatch (.ofDictionaries .sample textCodec textInt64)
        [("error",invalidRequest),("time",.null),("id",.number "5000001")] false =
      dispatch (.ofDictionaries .sample textCodec textInt64)
        [("id",.number "5000001"),("error",invalidRequest),("time",.null)] false ∧
    dispatch (.ofDictionaries .sample textCodec textInt64)
        [("error",invalidRequest),("time",.null),("id",.number "5000001")] false =
      lookup (.ofDictionaries .sample textCodec textInt64)
        [("error",invalidRequest),("time",.null),("id",.number "5000001")] false ∧
    dispatch (.ofDictionaries .sample textCodec textInt64)
        [("error",invalidRequest),("time",.null),("id",.number "5000001")] false =
      .called .error (some 5000001) none
        ["Invalid request: streams must be an array","5000001"] := by
  have hh : Heads textInt64 [("id",.number "5000001"),("error",invalidRequest)] :=
    .error rfl (by decide : (0 : ℤ) ≤ 5000001)
  have hr : Unrecognised .sample [("time",.null)] := by
    intro x hx
    rw [List.mem_singleton.mp hx]
    decide
  have hp : List.Perm [("error",invalidRequest),("time",Json.null),("id",.number "5000001")]
      ([("id",.number "5000001"),("error",invalidRequest)] ++ [("time",Json.null)]) :=
    @List.perm_append_comm _ [("error",invalidRequest),("time",Json.null)] [("id",.number "5000001")]
  obtain ⟨h,hlookup⟩ := dispatch_perm textCodec false hh hr hp
  exact ⟨h,hlookup,rfl⟩

end MarketStreamParser
end RoqBinance.Protocol.Json
