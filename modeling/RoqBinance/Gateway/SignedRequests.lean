import RoqBinance.Gateway.Frame
import RoqBinance.Gateway.OrderEntryMargin
import RoqBinance.Gateway.OrderEntryPortfolio
import RoqBinance.Protocol.Json.Encoder
import RoqBinance.Tools.Crypto

/-! The signed requests as they are sent: which text goes into the query, which into the body,
and which bytes are signed. -/
namespace RoqBinance.Gateway
open Library Protocol.Json Tools

/-- The paths of the REST requests. -/
structure API.Sapi where
  isolatedMarginUserDataStream : String
  crossAccount : String
  marginUserDataStream : String
  marginOpenOrders : String
  marginMyTrades : String
  marginOrder : String
  deriving DecidableEq, Repr

structure API.Papi where
  listenKey : String
  balance : String
  marginOpenOrders : String
  marginMyTrades : String
  marginOrder : String
  marginAllOpenOrders : String
  deriving DecidableEq, Repr

structure Account where
  name : String
  crypto : Crypto
  signBuffer : List Char
  queryEncodeBuffer : List Char
  deriving DecidableEq, Repr

namespace Account
variable {W : Type} (utils : Utils W)

def createSessionLogonSignature (timestamp : ℕ) (account : Account) : List Char × Account :=
  match account.crypto.createSessionLogonSignature utils account.signBuffer timestamp with
  | (signature,crypto) => (signature,{account with crypto := crypto,signBuffer := signature})

/-- The query is a view of the buffer. -/
def finish (result : Option (W × Crypto)) (account : Account) : Option (List Char × Account) :=
  result.map fun (writer,crypto) =>
    (utils.finish writer,{account with crypto := crypto,queryEncodeBuffer := utils.buffer writer})

def createRestSignatureBodyNew (body : List Char) (account : Account) :
    Option (List Char × Account) :=
  account.finish utils
    (account.crypto.createRestSignatureBodyNew utils account.queryEncodeBuffer body)

def createRestSignatureOld (now : ℕ) (account : Account) : Option (List Char × Account) :=
  account.finish utils
    (account.crypto.createRestSignatureOld utils account.queryEncodeBuffer now)

def createRestSignatureOldBody (now : ℕ) (body : List Char) (account : Account) :
    Option (List Char × Account) :=
  account.finish utils
    (account.crypto.createRestSignatureOldBody utils account.queryEncodeBuffer now body)

def createRestSignatureOldQuery (now : ℕ) (query : List Char) (account : Account) :
    List Char × Account :=
  match account.crypto.createRestSignatureOldQuery utils now query with
  | (query,crypto) => (query,{account with crypto := crypto})

end Account

inductive Method | get | post | delete
  deriving DecidableEq, Repr

/-- `formUrlencoded` is whether the content type is set, to that of a form. -/
structure RestRequest where
  method : Method
  path : String
  query : List Char
  formUrlencoded : Bool
  headers : String
  body : List Char
  deriving DecidableEq, Repr

namespace RestRequest
variable {W : Type} (utils : Utils W)

def Signed (scheme : Crypto.Scheme) (request : RestRequest) (account : Account) : Prop :=
  account.crypto.Covers utils scheme request.query request.body

/-- The text is signed and sent as the query, with no body. -/
def bodyNew (method : Method) (path text : String) (account : Account) :
    Option (RestRequest × Account) :=
  (account.createRestSignatureBodyNew utils text.toList).map fun (query,account) =>
    (⟨method,path,query,false,account.crypto.headersNew,[]⟩,account)

def old (path : String) (now : ℕ) (account : Account) : Option (RestRequest × Account) :=
  (account.createRestSignatureOld utils now).map fun (query,account) =>
    (⟨.get,path,query,false,account.crypto.headersOld,[]⟩,account)

/-- The text is signed after the query and sent as the body. -/
def oldBody (method : Method) (path text : String) (now : ℕ) (account : Account) :
    Option (RestRequest × Account) :=
  (account.createRestSignatureOldBody utils now text.toList).map fun (query,account) =>
    (⟨method,path,query,true,account.crypto.headersOld,text.toList⟩,account)

def oldQuery (path text : String) (now : ℕ) (account : Account) : RestRequest × Account :=
  match account.createRestSignatureOldQuery utils now text.toList with
  | (query,account) => (⟨.get,path,query,true,account.crypto.headersOld,[]⟩,account)

variable {utils}

theorem signed_bodyNew (h : utils.Lawful) {method : Method} {path text : String}
    {account account' : Account} {request : RestRequest}
    (he : bodyNew utils method path text account = some (request,account')) :
    request.Signed utils .ed25519 account' := by
  simp only [bodyNew, Account.createRestSignatureBodyNew, Account.finish, Option.map_map,
    Option.map_eq_some_iff, Function.comp_apply, Prod.exists, Prod.mk.injEq] at he
  obtain ⟨writer,crypto,hw,rfl,rfl⟩ := he
  exact Crypto.covers_createRestSignatureBodyNew h hw

theorem signed_old (h : utils.Lawful) {path : String} {now : ℕ} {account account' : Account}
    {request : RestRequest} (he : old utils path now account = some (request,account')) :
    request.Signed utils .classic account' := by
  simp only [old, Account.createRestSignatureOld, Account.finish, Option.map_map,
    Option.map_eq_some_iff, Function.comp_apply, Prod.exists, Prod.mk.injEq] at he
  obtain ⟨writer,crypto,hw,rfl,rfl⟩ := he
  exact Crypto.covers_createRestSignatureOld h hw

theorem signed_oldBody (h : utils.Lawful) {method : Method} {path text : String} {now : ℕ}
    {account account' : Account} {request : RestRequest}
    (he : oldBody utils method path text now account = some (request,account')) :
    request.Signed utils .classic account' := by
  simp only [oldBody, Account.createRestSignatureOldBody, Account.finish, Option.map_map,
    Option.map_eq_some_iff, Function.comp_apply, Prod.exists, Prod.mk.injEq] at he
  obtain ⟨writer,crypto,hw,rfl,rfl⟩ := he
  exact Crypto.covers_createRestSignatureOldBody h hw

theorem signed_oldQuery (h : utils.Lawful) (path text : String) (now : ℕ) (account : Account) :
    (oldQuery utils path text now account).1.Signed utils .classic
      (oldQuery utils path text now account).2 :=
  Crypto.covers_createRestSignatureOldQuery h now text.toList account.crypto

end RestRequest

namespace OrderEntryMargin
variable {W : Type} (utils : Utils W) (sapi : API.Sapi)

def listenKeyRequest (marginMode : MarginMode) (account : Account) :
    Option (RestRequest × Account) :=
  let request (path : String) := RestRequest.bodyNew utils .post path "validity=86400000" account
  match marginMode with
  | .undefined => none
  | .isolated => request sapi.isolatedMarginUserDataStream
  | .cross => request sapi.marginUserDataStream
  | .portfolio => none

def accountRequest (marginMode : MarginMode) (now : ℕ) (account : Account) :
    Option (RestRequest × Account) :=
  match marginMode with
  | .undefined => none
  | .isolated => none
  | .cross =>
    RestRequest.bodyNew utils .get sapi.crossAccount ("timestamp=" ++ toString now) account
  | .portfolio => none

def openOrdersRequest (marginMode : MarginMode) (now : ℕ) (account : Account) :
    Option (RestRequest × Account) :=
  match marginMode with
  | .undefined => none
  | .isolated => none
  | .cross =>
    RestRequest.bodyNew utils .get sapi.marginOpenOrders ("timestamp=" ++ toString now) account
  | .portfolio => none

def tradesRequest (symbol : String) (lookback limit now : ℕ) (account : Account) :
    Option (RestRequest × Account) :=
  RestRequest.bodyNew utils .get sapi.marginMyTrades
    (Encoder.myTradesUrl symbol lookback limit now) account

def accountCrossOnTimerRequest (now : ℕ) (account : Account) : Option (RestRequest × Account) :=
  RestRequest.bodyNew utils .get sapi.crossAccount ("timestamp=" ++ toString now) account

def newOrderRequest (body : String) (account : Account) : Option (RestRequest × Account) :=
  RestRequest.bodyNew utils .post sapi.marginOrder body account

def cancelOrderRequest (body : String) (account : Account) : Option (RestRequest × Account) :=
  RestRequest.bodyNew utils .delete sapi.marginOrder body account

def cancelAllOpenOrdersRequest (symbol : String) (marginMode : MarginMode) (recvWindow now : ℕ)
    (account : Account) : Option (RestRequest × Account) :=
  let request := RestRequest.bodyNew utils .delete sapi.marginOpenOrders
    (Encoder.cancelAllOpenOrdersUrl symbol marginMode recvWindow now) account
  match marginMode with
  | .undefined => none
  | .isolated => request
  | .cross => request
  | .portfolio => none

/-- What is sent for a call, in milliseconds; `none` is for what ends the process or throws. -/
def restRequest (recvWindow now : ℕ) (call : Call) (account : Account) :
    Option (RestRequest × Account) :=
  match call with
  | .listenKey marginMode => listenKeyRequest utils sapi marginMode account
  | .account marginMode => accountRequest utils sapi marginMode now account
  | .openOrders marginMode => openOrdersRequest utils sapi marginMode now account
  | .trades _ symbol lookback limit => tradesRequest utils sapi symbol lookback limit now account
  | .accountCrossOnTimer => accountCrossOnTimerRequest utils sapi now account
  | .newOrder body _ _ => newOrderRequest utils sapi body account
  | .cancelOrder body _ _ _ => cancelOrderRequest utils sapi body account
  | .cancelAllOpenOrders symbol marginMode _ =>
    cancelAllOpenOrdersRequest utils sapi symbol marginMode recvWindow now account

variable {utils sapi}

theorem signed_restRequest (h : utils.Lawful) {recvWindow now : ℕ} {call : Call}
    {account account' : Account} {request : RestRequest}
    (he : restRequest utils sapi recvWindow now call account = some (request,account')) :
    request.Signed utils .ed25519 account' := by
  cases call with
  | listenKey marginMode =>
    cases marginMode with
    | undefined => cases he
    | isolated => exact RestRequest.signed_bodyNew h he
    | cross => exact RestRequest.signed_bodyNew h he
    | portfolio => cases he
  | account marginMode =>
    cases marginMode with
    | undefined => cases he
    | isolated => cases he
    | cross => exact RestRequest.signed_bodyNew h he
    | portfolio => cases he
  | openOrders marginMode =>
    cases marginMode with
    | undefined => cases he
    | isolated => cases he
    | cross => exact RestRequest.signed_bodyNew h he
    | portfolio => cases he
  | trades marginMode symbol lookback limit => exact RestRequest.signed_bodyNew h he
  | accountCrossOnTimer => exact RestRequest.signed_bodyNew h he
  | newOrder body userId orderId => exact RestRequest.signed_bodyNew h he
  | cancelOrder body userId orderId version => exact RestRequest.signed_bodyNew h he
  | cancelAllOpenOrders symbol marginMode requestId =>
    cases marginMode with
    | undefined => cases he
    | isolated => exact RestRequest.signed_bodyNew h he
    | cross => exact RestRequest.signed_bodyNew h he
    | portfolio => cases he

end OrderEntryMargin

namespace OrderEntryPortfolio
variable {W : Type} (utils : Utils W) (papi : API.Papi)

/-- The listen key is asked for with the key alone. -/
def listenKeyRequest (account : Account) : RestRequest × Account :=
  (⟨.post,papi.listenKey,[],false,account.crypto.headersOld,[]⟩,account)

def accountRequest (now : ℕ) (account : Account) : Option (RestRequest × Account) :=
  RestRequest.old utils papi.balance now account

def openOrdersRequest (now : ℕ) (account : Account) : Option (RestRequest × Account) :=
  RestRequest.old utils papi.marginOpenOrders now account

def tradesRequest (symbol : String) (lookback limit now : ℕ) (account : Account) :
    RestRequest × Account :=
  RestRequest.oldQuery utils papi.marginMyTrades
    (Encoder.myTradesUrl symbol lookback limit now) now account

def newOrderRequest (body : String) (now : ℕ) (account : Account) :
    Option (RestRequest × Account) :=
  RestRequest.oldBody utils .post papi.marginOrder body now account

def cancelOrderRequest (body : String) (now : ℕ) (account : Account) :
    Option (RestRequest × Account) :=
  RestRequest.oldBody utils .delete papi.marginOrder body now account

def cancelAllOpenOrdersRequest (symbol : String) (recvWindow now : ℕ) (account : Account) :
    Option (RestRequest × Account) :=
  RestRequest.oldBody utils .delete papi.marginAllOpenOrders
    (Encoder.cancelAllOpenOrdersUrl symbol .portfolio recvWindow now) now account

def restRequest (recvWindow now : ℕ) (call : Call) (account : Account) :
    Option (RestRequest × Account) :=
  match call with
  | .listenKey => some (listenKeyRequest papi account)
  | .account => accountRequest utils papi now account
  | .openOrders => openOrdersRequest utils papi now account
  | .trades symbol lookback limit =>
    some (tradesRequest utils papi symbol lookback limit now account)
  | .newOrder body _ _ => newOrderRequest utils papi body now account
  | .cancelOrder body _ _ _ => cancelOrderRequest utils papi body now account
  | .cancelAllOpenOrders symbol _ =>
    cancelAllOpenOrdersRequest utils papi symbol recvWindow now account

variable {utils papi}

theorem signed_restRequest (h : utils.Lawful) {recvWindow now : ℕ} {call : Call}
    {account account' : Account} {request : RestRequest} (hcall : call ≠ .listenKey)
    (he : restRequest utils papi recvWindow now call account = some (request,account')) :
    request.Signed utils .classic account' := by
  cases call with
  | listenKey => exact absurd rfl hcall
  | account => exact RestRequest.signed_old h he
  | openOrders => exact RestRequest.signed_old h he
  | trades symbol lookback limit =>
    cases he
    exact RestRequest.signed_oldQuery h _ _ _ _
  | newOrder body userId orderId => exact RestRequest.signed_oldBody h he
  | cancelOrder body userId orderId version => exact RestRequest.signed_oldBody h he
  | cancelAllOpenOrders symbol requestId => exact RestRequest.signed_oldBody h he

end OrderEntryPortfolio

namespace SessionLogon

inductive Value
  | text (s : List Char)
  | number (n : ℕ)
  deriving DecidableEq, Repr

namespace Value

def raw : Value → List Char
  | .text s => s
  | .number n => (toString n).toList

def json : Value → List Char
  | .text s => '"' :: s ++ ['"']
  | .number n => (toString n).toList

end Value

abbrev Parameter := String × Value

/-- The text of a request with these parameters. -/
def json (id : List Char) (method : String) (params : List Parameter) : List Char :=
  "\x7b\"id\":\"".toList ++ id ++ "\",\"method\":\"".toList ++ method.toList ++
    "\",\"params\":\x7b".toList ++
    [','].intercalate
      (params.map fun (key,value) => '"' :: key.toList ++ "\":".toList ++ value.json) ++
    "\x7d\x7d".toList

/-- `key=value`, joined by `&`. -/
def serialise (params : List Parameter) : List Char :=
  ['&'].intercalate (params.map fun (key,value) => key.toList ++ '=' :: value.raw)

variable {W : Type} (utils : Utils W)

/-- The text that is sent for a session logon. -/
def text (frame : Frame) (account : Account) : Option (List Char × Account) :=
  match frame.params with
  | .sessionLogon timestamp =>
    match account.createSessionLogonSignature utils timestamp with
    | (signature,account') => some (
      "\x7b\"id\":\"".toList ++ frame.id ++
        "\",\"method\":\"session.logon\",\"params\":\x7b\"apiKey\":\"".toList ++
        account.crypto.key.toList ++ "\",\"timestamp\":".toList ++ (toString timestamp).toList ++
        ",\"signature\":\"".toList ++ signature ++ "\"\x7d\x7d".toList,account')
  | _ => none

variable {utils}

theorem json_format (id key number signature : List Char) :
    "\x7b\"id\":\"".toList ++ id ++
      "\",\"method\":\"session.logon\",\"params\":\x7b\"apiKey\":\"".toList ++ key ++
      "\",\"timestamp\":".toList ++ number ++ ",\"signature\":\"".toList ++ signature ++
      "\"\x7d\x7d".toList =
    "\x7b\"id\":\"".toList ++ id ++ "\",\"method\":\"".toList ++ "session.logon".toList ++
      "\",\"params\":\x7b".toList ++
      [','].intercalate [
        '"' :: "apiKey".toList ++ "\":".toList ++ ('"' :: key ++ ['"']),
        '"' :: "timestamp".toList ++ "\":".toList ++ number,
        '"' :: "signature".toList ++ "\":".toList ++ ('"' :: signature ++ ['"'])] ++
      "\x7d\x7d".toList := by
  -- The format is cut where the parameters begin and end.
  have hmethod : "\",\"method\":\"session.logon\",\"params\":\x7b\"apiKey\":\"".toList =
      "\",\"method\":\"".toList ++ "session.logon".toList ++ "\",\"params\":\x7b".toList ++
        '"' :: "apiKey".toList ++ "\":".toList ++ ['"'] := rfl
  have htimestamp : "\",\"timestamp\":".toList =
      ['"',','] ++ '"' :: "timestamp".toList ++ "\":".toList := rfl
  have hsignature : ",\"signature\":\"".toList =
      [','] ++ '"' :: "signature".toList ++ "\":".toList ++ ['"'] := rfl
  have hend : "\"\x7d\x7d".toList = '"' :: "\x7d\x7d".toList := rfl
  rw [hmethod,htimestamp,hsignature,hend]
  simp only [List.intercalate, List.intersperse, List.flatten_cons, List.flatten_nil,
    List.append_assoc, List.cons_append, List.nil_append]

/-- The other parameters are signed in alphabetical order. -/
theorem signed_text (h : utils.Lawful) {frame : Frame} {account account' : Account}
    {sent : List Char} (he : text utils frame account = some (sent,account')) :
    ∃ params signature,
      sent = json frame.id "session.logon" (params ++ [("signature",.text signature)]) ∧
      (params.map Prod.fst).Pairwise (· < ·) ∧
      account'.crypto.context = serialise params ∧
      account'.crypto.digest = account'.crypto.apply utils .ed25519 ∧
      utils.decodeBase64 signature = some account'.crypto.digest := by
  unfold text at he
  split at he
  · next timestamp _ =>
    cases he
    refine ⟨[("apiKey",.text account.crypto.key.toList),("timestamp",.number timestamp)],_,?_,?_,
      ?_,?_,h.decode_base64 account.signBuffer _⟩
    · exact json_format _ _ _ _
    · have horder : (["apiKey","timestamp"] : List String).Pairwise (· < ·) := by decide
      exact horder
    · simp [Crypto.sign, serialise, Value.raw, List.intercalate]
    · simp [Crypto.sign, Crypto.apply, Crypto.fed]
  · cases he

end SessionLogon

/-- Whatever the account has left from earlier calls, what is signed is what is sent. -/
theorem signatures_cover {W : Type} {utils : Utils W} (h : utils.Lawful) (sapi : API.Sapi)
    (papi : API.Papi) (recvWindow now : ℕ) (account account' : Account) :
    (∀ call request,
      OrderEntryMargin.restRequest utils sapi recvWindow now call account =
        some (request,account') →
      request.Signed utils .ed25519 account') ∧
    (∀ call request, call ≠ .listenKey →
      OrderEntryPortfolio.restRequest utils papi recvWindow now call account =
        some (request,account') →
      request.Signed utils .classic account') ∧
    ∀ frame sent, SessionLogon.text utils frame account = some (sent,account') →
      ∃ params signature,
        sent = SessionLogon.json frame.id "session.logon"
          (params ++ [("signature",.text signature)]) ∧
        (params.map Prod.fst).Pairwise (· < ·) ∧
        account'.crypto.context = SessionLogon.serialise params ∧
        account'.crypto.digest = account'.crypto.apply utils .ed25519 ∧
        utils.decodeBase64 signature = some account'.crypto.digest := by
  refine ⟨?_,?_,?_⟩
  · intro call request he
    exact OrderEntryMargin.signed_restRequest h he
  · intro call request hcall he
    exact OrderEntryPortfolio.signed_restRequest h hcall he
  · intro frame sent he
    exact SessionLogon.signed_text h he

/-- An account of one key that signed something else before. -/
def Account.sample (pkey secret : String) : Account where
  name := "A1"
  crypto :=
    { key := "IUA8RM0EJObe4X7UWxy74jAp6s2TJL2flZgDoxzx5AU3ws1I81Gr8ID3MVwfnYVD",
      headersNew := "", headersOld := "", pkey := pkey, context := ['x'], digest := [1],
      secret := secret, mac := ['y'], digest2 := [2] }
  signBuffer := ['z']
  queryEncodeBuffer := List.replicate 512 ' '

/-- The signatures of two texts, and the MAC of one. -/
def sampleUtils : Utils Writer :=
  Utils.standard
    (fun _ fed =>
      if fed = "validity=86400000".toList then
        [137,163,160,35,134,177,36,240,93,134,28,105,28,63,130,50,57,22,178,123,190,89,57,171,70,44,
         240,21,220,100,241,60,177,218,70,216,116,214,85,110,26,33,252,116,26,252,153,229,121,139,
         64,214,1,99,85,128,64,224,179,238,90,32,241,14]
      else
        [138,103,4,122,116,221,252,73,73,241,228,52,159,177,241,217,1,147,119,137,87,251,251,137,21,
         17,191,240,122,157,204,233,12,135,44,133,27,200,121,50,216,234,185,203,129,62,116,197,108,
         24,128,145,85,234,183,148,47,84,173,43,226,65,113,12])
    (fun _ _ =>
      [212,6,204,11,232,227,215,182,133,236,111,146,98,162,164,51,152,150,83,57,10,129,134,108,232,
       149,254,56,41,116,29,162])

theorem signatures_cover_sample :
    (∃ request account',
      OrderEntryMargin.restRequest sampleUtils ⟨"","","/listen","","",""⟩ 5000 1674303865000
        (.listenKey .cross) (Account.sample "secret" "") = some (request,account') ∧
      request.query = ("?validity=86400000&signature=iaOgI4axJPBdhhxpHD%2BCMjkWsnu%2BWTmrRizwFdxk" ++
        "8Tyx2kbYdNZVbhoh%2FHQa%2FJnleYtA1gFjVYBA4LPuWiDxDg%3D%3D").toList ∧
      request.Signed sampleUtils .ed25519 account') ∧
    (∃ request account',
      OrderEntryPortfolio.restRequest sampleUtils ⟨"","","","","/order",""⟩ 5000 1674303865000
        (.newOrder ("newClientOrderId=a&quantity=1&recvWindow=5000&side=BUY&symbol=BTCUSDT" ++
          "&timestamp=1674303865000&type=MARKET") 1 1) (Account.sample "" "secret") =
        some (request,account') ∧
      request.Signed sampleUtils .classic account') ∧
    ∃ sent account' params signature,
      SessionLogon.text sampleUtils
        ⟨⟨1,.SESSION_LOGON,0,0,0,0⟩,"session.logon",.sessionLogon 1674303865000⟩
        (Account.sample "secret" "") = some (sent,account') ∧
      account'.crypto.context = SessionLogon.serialise params ∧
      sampleUtils.decodeBase64 signature = some account'.crypto.digest := by
  have hlawful : sampleUtils.Lawful := Utils.lawful_standard _ _
  refine ⟨?_,?_,?_⟩
  · have hsome : ((OrderEntryMargin.restRequest sampleUtils ⟨"","","/listen","","",""⟩ 5000
        1674303865000 (.listenKey .cross) (Account.sample "secret" "")).map fun r => r.1.query) =
        some ("?validity=86400000&signature=iaOgI4axJPBdhhxpHD%2BCMjkWsnu%2BWTmrRizwFdxk" ++
          "8Tyx2kbYdNZVbhoh%2FHQa%2FJnleYtA1gFjVYBA4LPuWiDxDg%3D%3D").toList := by
      decide +kernel
    obtain ⟨⟨request,account'⟩,he,hquery⟩ := Option.map_eq_some_iff.mp hsome
    exact ⟨request,account',he,hquery,
      (signatures_cover hlawful _ ⟨"","","","","",""⟩ _ _ _ _).1 _ _ he⟩
  · have hsome : (OrderEntryPortfolio.restRequest sampleUtils ⟨"","","","","/order",""⟩ 5000
        1674303865000
        (.newOrder ("newClientOrderId=a&quantity=1&recvWindow=5000&side=BUY&symbol=BTCUSDT" ++
          "&timestamp=1674303865000&type=MARKET") 1 1) (Account.sample "" "secret")).isSome := by
      decide +kernel
    obtain ⟨⟨request,account'⟩,he⟩ := Option.isSome_iff_exists.mp hsome
    exact ⟨request,account',he,
      (signatures_cover hlawful ⟨"","","","","",""⟩ _ _ _ _ _).2.1 _ _ (by decide) he⟩
  · have hsome : (SessionLogon.text sampleUtils
        ⟨⟨1,.SESSION_LOGON,0,0,0,0⟩,"session.logon",.sessionLogon 1674303865000⟩
        (Account.sample "secret" "")).isSome := rfl
    obtain ⟨⟨sent,account'⟩,he⟩ := Option.isSome_iff_exists.mp hsome
    obtain ⟨params,signature,_,_,hcontext,_,hdecode⟩ :=
      (signatures_cover hlawful ⟨"","","","","",""⟩ ⟨"","","","","",""⟩ 0 0 _ _).2.2 _ _ he
    exact ⟨sent,account',params,signature,he,hcontext,hdecode⟩

end RoqBinance.Gateway
