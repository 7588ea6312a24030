import RoqBinance.Gateway.Config
import RoqBinance.Gateway.SignedRequests
import RoqBinance.Library.Machine

/-! The credentials of the accounts, from the configuration to the signatures. -/
namespace RoqBinance.Tools
open Library

/-- Whether the keys of a library are empty: the private key of a text, and the MAC of a text as
its constructor and as `create` makes it. -/
structure Keys where
  emptyPKey : String → Bool
  emptyMac : String → Bool
  emptyCreatedMac : String → Bool

namespace Crypto

def createHeaders (key : String) : String := "X-MBX-APIKEY: " ++ key ++ "\r\n"

section
variable (keys : Keys) (marginMode : MarginMode) (key secret key2 secret2 : String)

/-- In portfolio mode the private key is left empty. -/
def createEd25519 : String × Bool :=
  if marginMode ≠ .portfolio then (secret,keys.emptyPKey secret) else ("",true)

def createMac : Except String (String × Bool) :=
  if marginMode = .portfolio then
    if secret2 ≠ "" then .error "Unexpected: secret_2 is now allowed in PORTFOLIO mode"
    else .ok (secret,keys.emptyMac secret)
  else
    let text := if secret2 = "" then secret else secret2
    .ok (text,keys.emptyCreatedMac text)

def create : Except String Crypto :=
  match createMac keys marginMode secret secret2 with
  | .error e => .error e
  | .ok (mac,emptyMac) =>
    match createEd25519 keys marginMode secret with
    | (pkey,emptyPKey) =>
      if emptyPKey && emptyMac then .error "The secret must be valid ED25519 or HMAC_SHA256"
      else .ok
        { key := key, headersNew := createHeaders key,
          headersOld := createHeaders (if key2 = "" then key else key2), pkey := pkey,
          context := [], digest := [], secret := mac, mac := [], digest2 := [] }

end

/-- All but what the last signatures have left. -/
structure Credentials where
  key : String
  headersNew : String
  headersOld : String
  pkey : String
  secret : String
  deriving DecidableEq, Repr

def credentials (crypto : Crypto) : Credentials where
  key := crypto.key
  headersNew := crypto.headersNew
  headersOld := crypto.headersOld
  pkey := crypto.pkey
  secret := crypto.secret

variable {W : Type} {utils : Utils W}

theorem credentials_createRestSignatureBodyNew {buffer body : List Char} {crypto crypto' : Crypto}
    {writer : W}
    (h : crypto.createRestSignatureBodyNew utils buffer body = some (writer,crypto')) :
    crypto'.credentials = crypto.credentials := by
  simp only [createRestSignatureBodyNew, Option.bind_eq_bind, Option.bind_eq_some_iff,
    Option.some.injEq, Prod.mk.injEq] at h
  obtain ⟨_,-,_,-,_,-,_,-,-,rfl⟩ := h
  rfl

theorem credentials_createRestSignatureOld {buffer : List Char} {now : ℕ} {crypto crypto' : Crypto}
    {writer : W} (h : crypto.createRestSignatureOld utils buffer now = some (writer,crypto')) :
    crypto'.credentials = crypto.credentials := by
  simp only [createRestSignatureOld, Option.bind_eq_bind, Option.bind_eq_some_iff,
    Option.some.injEq, Prod.mk.injEq] at h
  obtain ⟨_,-,_,-,_,-,_,-,-,rfl⟩ := h
  rfl

theorem credentials_createRestSignatureOldBody {buffer body : List Char} {now : ℕ}
    {crypto crypto' : Crypto} {writer : W}
    (h : crypto.createRestSignatureOldBody utils buffer now body = some (writer,crypto')) :
    crypto'.credentials = crypto.credentials := by
  simp only [createRestSignatureOldBody, Option.bind_eq_bind, Option.bind_eq_some_iff,
    Option.some.injEq, Prod.mk.injEq] at h
  obtain ⟨_,-,_,-,_,-,_,-,-,rfl⟩ := h
  rfl

def Scheme.digest (utils : Utils W) (key : String) (text : List Char) : Scheme → Bytes
  | .ed25519 => utils.sign key text
  | .classic => utils.hmac key text

def Scheme.key (credentials : Credentials) : Scheme → String
  | .ed25519 => credentials.pkey
  | .classic => credentials.secret

/-- The signature at the end of the query is one by `key` of the query before it and the body. -/
def Verifies (utils : Utils W) (scheme : Scheme) (key : String) (query body : List Char) : Prop :=
  ∃ text signature, query = '?' :: text ++ "&signature=".toList ++ signature ∧
    '&' ∉ signature ∧
    decodeSignature utils scheme signature = some (scheme.digest utils key (text ++ body))

theorem Covers.verifies {scheme : Scheme} {query body : List Char} {crypto : Crypto}
    (h : crypto.Covers utils scheme query body) :
    Verifies utils scheme (scheme.key crypto.credentials) query body := by
  obtain ⟨text,signature,hquery,hnot,hfed,happly,hdecode⟩ := h
  refine ⟨text,signature,hquery,hnot,?_⟩
  rw [hdecode,happly,← hfed]
  cases scheme with
  | ed25519 => rfl
  | classic => rfl

end Crypto
end RoqBinance.Tools

namespace RoqBinance.Gateway
open Library Protocol.Json Tools

def QUERY_BUFFER_LENGTH : ℕ := 512

namespace Account

def create (keys : Keys) (config : Config) (name : String) (marginMode : MarginMode) :
    Except String Account := do
  let key ← config.getApiKey name
  let secret ← config.getSecret name
  if key = "" ∨ secret = "" then .error "Invalid config"
  else do
    let key2 ← config.getApiKey2 name
    let secret2 ← config.getSecret2 name
    let crypto ← Crypto.create keys marginMode key secret key2 secret2
    .ok ⟨name,crypto,[],List.replicate QUERY_BUFFER_LENGTH (Char.ofNat 0)⟩

end Account

namespace Config.Account

/-- The text of the MAC. -/
def mac (c : Config.Account) : String :=
  if c.marginMode = .portfolio ∨ c.secret2 = "" then c.secret else c.secret2

/-- The account can be created. -/
structure Usable (keys : Keys) (c : Config.Account) : Prop where
  login : c.login ≠ ""
  secret : c.secret ≠ ""
  portfolio : c.marginMode = .portfolio → c.secret2 = "" ∧ keys.emptyMac c.secret = false
  other : c.marginMode ≠ .portfolio →
    ¬ (keys.emptyPKey c.secret = true ∧ keys.emptyCreatedMac c.mac = true)

/-- The account's crypto object before anything is signed. -/
def crypto (c : Config.Account) : Crypto where
  key := c.login
  headersNew := Crypto.createHeaders c.login
  headersOld := Crypto.createHeaders (if c.login2 = "" then c.login else c.login2)
  pkey := if c.marginMode ≠ .portfolio then c.secret else ""
  context := []
  digest := []
  secret := c.mac
  mac := []
  digest2 := []

theorem create_eq_ok {keys : Keys} {c : Config.Account} {crypto : Crypto} :
    Crypto.create keys c.marginMode c.login c.secret c.login2 c.secret2 = .ok crypto ↔
      ((c.marginMode = .portfolio → c.secret2 = "" ∧ keys.emptyMac c.secret = false) ∧
        (c.marginMode ≠ .portfolio →
          ¬ (keys.emptyPKey c.secret = true ∧ keys.emptyCreatedMac c.mac = true))) ∧
      c.crypto = crypto := by
  unfold Crypto.create Crypto.createMac Crypto.createEd25519 Account.crypto mac
  by_cases hmode : c.marginMode = .portfolio
  · by_cases hsecret : c.secret2 = ""
    · cases keys.emptyMac c.secret <;> simp [hmode, hsecret]
    · simp [hmode, hsecret]
  · cases keys.emptyPKey c.secret
    · simp [hmode]
    · cases hmac : keys.emptyCreatedMac (if c.secret2 = "" then c.secret else c.secret2) <;>
        simp [hmode, hmac]

end Config.Account

namespace Account

theorem create_eq_ok_iff {keys : Keys} {config : Config} {c : Config.Account} {name : String}
    (h : config.accounts.lookup name = some c) {account : Account} :
    create keys config name c.marginMode = .ok account ↔
      c.Usable keys ∧
        account = ⟨name,c.crypto,[],List.replicate QUERY_BUFFER_LENGTH (Char.ofNat 0)⟩ := by
  have hget : config.getAccount name = .ok c := by rw [Config.getAccount,h]
  unfold create Config.getApiKey Config.getSecret Config.getApiKey2 Config.getSecret2
  rw [hget]
  change (if c.login = "" ∨ c.secret = "" then _ else (Crypto.create keys c.marginMode c.login
    c.secret c.login2 c.secret2).bind _) = _ ↔ _
  by_cases hempty : c.login = "" ∨ c.secret = ""
  · rw [if_pos hempty]
    constructor
    · intro he; cases he
    · rintro ⟨⟨hlogin,hsecret,-,-⟩,-⟩
      rcases hempty with he | he
      · exact absurd he hlogin
      · exact absurd he hsecret
  · obtain ⟨hlogin,hsecret⟩ := not_or.mp hempty
    rw [if_neg hempty]
    cases hc : Crypto.create keys c.marginMode c.login c.secret c.login2 c.secret2 with
    | error e =>
      constructor
      · intro he; cases he
      · rintro ⟨⟨-,-,hportfolio,hother⟩,-⟩
        rw [Config.Account.create_eq_ok.mpr ⟨⟨hportfolio,hother⟩,rfl⟩] at hc
        cases hc
    | ok crypto =>
      obtain ⟨⟨hportfolio,hother⟩,rfl⟩ := Config.Account.create_eq_ok.mp hc
      constructor
      · intro he; exact ⟨⟨hlogin,hsecret,hportfolio,hother⟩,(Except.ok.inj he).symm⟩
      · rintro ⟨-,rfl⟩; rfl

end Account

/-- The account of each name in the configuration, with its margin mode. -/
def createAccounts (keys : Keys) (config : Config) :
    Except String (List (String × MarginMode × Account)) :=
  config.accounts.foldlM (fun result entry =>
    (Account.create keys config entry.2.name entry.2.marginMode).map fun account =>
      tryEmplace entry.2.name (entry.2.marginMode,account) result) []

section
variable {names : Names} {sections : List Config.Section} {config : Config}
  (hload : Config.load names sections = .ok config) {keys : Keys}
include hload

theorem lookup_entry {entry : String × Config.Account} (h : entry ∈ config.accounts) :
    config.accounts.lookup entry.2.name = some entry.2 := by
  obtain ⟨hnodup,hname⟩ := Config.accounts_named hload
  rw [← hname entry h]
  exact lookup_of_mem hnodup h

theorem createAccounts_isOk_iff (keys : Keys) :
    (∃ accounts, createAccounts keys config = .ok accounts) ↔
      ∀ entry ∈ config.accounts, entry.2.Usable keys := by
  refine foldlM_isOk_iff ?_ []
  intro entry hentry result
  simp only [Config.map_eq_ok, Account.create_eq_ok_iff (lookup_entry hload hentry)]
  constructor
  · rintro ⟨_,_,⟨h,-⟩,-⟩; exact h
  · intro h; exact ⟨_,_,⟨h,rfl⟩,rfl⟩

/-- Each account has been made from what the configuration has under its name. -/
theorem lookup_createAccounts {accounts : List (String × MarginMode × Account)}
    (h : createAccounts keys config = .ok accounts) (name : String) :
    accounts.lookup name = (Config.account name sections).map fun c =>
      (c.marginMode,⟨name,c.crypto,[],List.replicate QUERY_BUFFER_LENGTH (Char.ofNat 0)⟩) := by
  rw [← Config.lookup_accounts hload name,← findSome?_key,
    foldlM_view (fun accounts => accounts.lookup name) (fun found entry => found.or
      (if name == entry.1 then some (entry.2.marginMode,(⟨name,entry.2.crypto,[],
        List.replicate QUERY_BUFFER_LENGTH (Char.ofNat 0)⟩ : Account)) else none)) ?_ h,foldl_or]
  · rfl
  · intro entry hentry result result' hstep
    obtain ⟨account,hcreate,rfl⟩ := Config.map_eq_ok.mp hstep
    obtain ⟨-,rfl⟩ := (Account.create_eq_ok_iff (lookup_entry hload hentry)).mp hcreate
    rw [lookup_tryEmplace,← (Config.accounts_named hload).2 entry hentry]
    by_cases hname : name = entry.1
    · simp [hname]
    · simp [hname]

end

namespace RestRequest
variable {W : Type} {utils : Utils W}

theorem keeps_bodyNew {method : Method} {path text : String} {account account' : Account}
    {request : RestRequest}
    (h : bodyNew utils method path text account = some (request,account')) :
    account'.crypto.credentials = account.crypto.credentials ∧
      request.headers = account.crypto.headersNew := by
  simp only [bodyNew, Account.createRestSignatureBodyNew, Account.finish, Option.map_map,
    Option.map_eq_some_iff, Function.comp_apply, Prod.exists, Prod.mk.injEq] at h
  obtain ⟨writer,crypto,hw,rfl,rfl⟩ := h
  have hkeeps := Crypto.credentials_createRestSignatureBodyNew hw
  exact ⟨hkeeps,congrArg Crypto.Credentials.headersNew hkeeps⟩

theorem keeps_old {path : String} {now : ℕ} {account account' : Account} {request : RestRequest}
    (h : old utils path now account = some (request,account')) :
    account'.crypto.credentials = account.crypto.credentials ∧
      request.headers = account.crypto.headersOld := by
  simp only [old, Account.createRestSignatureOld, Account.finish, Option.map_map,
    Option.map_eq_some_iff, Function.comp_apply, Prod.exists, Prod.mk.injEq] at h
  obtain ⟨writer,crypto,hw,rfl,rfl⟩ := h
  have hkeeps := Crypto.credentials_createRestSignatureOld hw
  exact ⟨hkeeps,congrArg Crypto.Credentials.headersOld hkeeps⟩

theorem keeps_oldBody {method : Method} {path text : String} {now : ℕ}
    {account account' : Account} {request : RestRequest}
    (h : oldBody utils method path text now account = some (request,account')) :
    account'.crypto.credentials = account.crypto.credentials ∧
      request.headers = account.crypto.headersOld := by
  simp only [oldBody, Account.createRestSignatureOldBody, Account.finish, Option.map_map,
    Option.map_eq_some_iff, Function.comp_apply, Prod.exists, Prod.mk.injEq] at h
  obtain ⟨writer,crypto,hw,rfl,rfl⟩ := h
  have hkeeps := Crypto.credentials_createRestSignatureOldBody hw
  exact ⟨hkeeps,congrArg Crypto.Credentials.headersOld hkeeps⟩

theorem keeps_oldQuery (path text : String) (now : ℕ) (account : Account) :
    (oldQuery utils path text now account).2.crypto.credentials = account.crypto.credentials ∧
      (oldQuery utils path text now account).1.headers = account.crypto.headersOld := ⟨rfl,rfl⟩

end RestRequest

/-- Every request of the margin stream is made in one way. -/
theorem OrderEntryMargin.exists_bodyNew {W : Type} {utils : Utils W} {sapi : API.Sapi}
    {recvWindow now : ℕ} {call : Call} {account : Account} {result : RestRequest × Account}
    (h : restRequest utils sapi recvWindow now call account = some result) :
    ∃ method path text, RestRequest.bodyNew utils method path text account = some result := by
  cases call with
  | listenKey marginMode =>
    cases marginMode with
    | undefined => cases h
    | isolated => exact ⟨_,_,_,h⟩
    | cross => exact ⟨_,_,_,h⟩
    | portfolio => cases h
  | account marginMode =>
    cases marginMode with
    | undefined => cases h
    | isolated => cases h
    | cross => exact ⟨_,_,_,h⟩
    | portfolio => cases h
  | openOrders marginMode =>
    cases marginMode with
    | undefined => cases h
    | isolated => cases h
    | cross => exact ⟨_,_,_,h⟩
    | portfolio => cases h
  | trades marginMode symbol lookback limit => exact ⟨_,_,_,h⟩
  | accountCrossOnTimer => exact ⟨_,_,_,h⟩
  | newOrder body userId orderId => exact ⟨_,_,_,h⟩
  | cancelOrder body userId orderId version => exact ⟨_,_,_,h⟩
  | cancelAllOpenOrders symbol marginMode requestId =>
    cases marginMode with
    | undefined => cases h
    | isolated => exact ⟨_,_,_,h⟩
    | cross => exact ⟨_,_,_,h⟩
    | portfolio => cases h

theorem OrderEntryPortfolio.keeps_restRequest {W : Type} {utils : Utils W} {papi : API.Papi}
    {recvWindow now : ℕ} {call : Call} {account account' : Account} {request : RestRequest}
    (h : restRequest utils papi recvWindow now call account = some (request,account')) :
    account'.crypto.credentials = account.crypto.credentials ∧
      request.headers = account.crypto.headersOld := by
  cases call with
  | listenKey => cases h; exact ⟨rfl,rfl⟩
  | account => exact RestRequest.keeps_old h
  | openOrders => exact RestRequest.keeps_old h
  | trades symbol lookback limit =>
    cases h
    exact RestRequest.keeps_oldQuery _ _ _ _
  | newOrder body userId orderId => exact RestRequest.keeps_oldBody h
  | cancelOrder body userId orderId version => exact RestRequest.keeps_oldBody h
  | cancelAllOpenOrders symbol requestId => exact RestRequest.keeps_oldBody h

namespace SessionLogon
variable {W : Type} {utils : Utils W}

theorem keeps_text {frame : Frame} {account account' : Account} {sent : List Char}
    (h : text utils frame account = some (sent,account')) :
    account'.crypto.credentials = account.crypto.credentials := by
  unfold text at h
  split at h
  · cases h; rfl
  · cases h

/-- The key that is named, and the key by which the parameters are signed. -/
theorem verifies_text (hlawful : utils.Lawful) {frame : Frame} {account account' : Account}
    {sent : List Char} (h : text utils frame account = some (sent,account')) :
    ∃ params signature,
      sent = json frame.id "session.logon" (params ++ [("signature",.text signature)]) ∧
      params.lookup "apiKey" = some (.text account.crypto.key.toList) ∧
      utils.decodeBase64 signature = some (utils.sign account.crypto.pkey (serialise params)) := by
  unfold text at h
  split at h
  · next timestamp _ =>
    cases h
    refine ⟨[("apiKey",.text account.crypto.key.toList),("timestamp",.number timestamp)],_,
      json_format _ _ _ _,rfl,?_⟩
    refine (hlawful.decode_base64 account.signBuffer _).trans (congrArg some ?_)
    simp [Crypto.sign, serialise, Value.raw, List.intercalate]
  · cases h

end SessionLogon

/-- What a stream of an account sends under its credentials. -/
inductive Signing
  | logon (frame : Frame)
  | margin (call : OrderEntryMargin.Call)
  | portfolio (call : OrderEntryPortfolio.Call)
  deriving DecidableEq, Repr

inductive Message
  | text (sent : List Char)
  | request (request : RestRequest)
  deriving DecidableEq, Repr

/-- The accounts with their margin modes, and all that has been sent for them. -/
structure Signers where
  accounts : String → Option (MarginMode × Account)
  sent : List (String × Signing × Message)

namespace Signers

section
variable {W : Type} (utils : Utils W) (sapi : API.Sapi) (papi : API.Papi) (recvWindow : ℕ)

/-- An account has the streams of its margin mode. -/
def sign (marginMode : MarginMode) (now : ℕ) (signing : Signing) (account : Account) :
    Option (Message × Account) :=
  match signing with
  | .logon frame =>
    if marginMode = .portfolio then none
    else (SessionLogon.text utils frame account).map fun (sent,account) => (.text sent,account)
  | .margin call =>
    if marginMode = .portfolio then none
    else (OrderEntryMargin.restRequest utils sapi recvWindow now call account).map
      fun (request,account) => (.request request,account)
  | .portfolio call =>
    if marginMode ≠ .portfolio then none
    else (OrderEntryPortfolio.restRequest utils papi recvWindow now call account).map
      fun (request,account) => (.request request,account)

/-- A run ends where a request cannot be made. -/
def next (s : Signers) (e : String × ℕ × Signing) : Option Signers :=
  (s.accounts e.1).bind fun (marginMode,account) =>
    (sign utils sapi papi recvWindow marginMode e.2.1 e.2.2 account).map fun (message,account) =>
      ⟨Function.update s.accounts e.1 (some (marginMode,account)),
        s.sent ++ [(e.1,e.2.2,message)]⟩

def machine (accounts : List (String × MarginMode × Account)) :
    Machine Signers (String × ℕ × Signing) :=
  ⟨⟨fun name => accounts.lookup name,[]⟩,next utils sapi papi recvWindow⟩

end

/-- The message names a key of the configured account and is signed by its secret. The key of a
portfolio account is the second one if it has one, though the secret is the first; its request for
a listen key has nothing to sign and is not signed. -/
def Authentic {W : Type} (utils : Utils W) (c : Config.Account) : Signing → Message → Prop
  | .logon frame, .text sent => ∃ params signature,
    sent = SessionLogon.json frame.id "session.logon" (params ++ [("signature",.text signature)]) ∧
    params.lookup "apiKey" = some (.text c.login.toList) ∧
    utils.decodeBase64 signature = some (utils.sign c.secret (SessionLogon.serialise params))
  | .margin _, .request request => request.headers = Crypto.createHeaders c.login ∧
    Crypto.Verifies utils .ed25519 c.secret request.query request.body
  | .portfolio call, .request request =>
    request.headers = Crypto.createHeaders (if c.login2 = "" then c.login else c.login2) ∧
    if call = .listenKey then request.query = [] ∧ request.body = []
    else Crypto.Verifies utils .classic c.secret request.query request.body
  | _, _ => False

/-- The account has the credentials of the configuration. -/
def Holds (c : Config.Account) (marginMode : MarginMode) (account : Account) : Prop :=
  c.marginMode = marginMode ∧ account.crypto.credentials = c.crypto.credentials

section
variable {W : Type} {utils : Utils W} {sapi : API.Sapi} {papi : API.Papi} {recvWindow : ℕ}

theorem Holds.sign (hlawful : utils.Lawful) {c : Config.Account} {marginMode : MarginMode}
    {account account' : Account} (h : Holds c marginMode account) {now : ℕ} {signing : Signing}
    {message : Message} (hs : sign utils sapi papi recvWindow marginMode now signing account =
      some (message,account')) :
    Holds c marginMode account' ∧ Authentic utils c signing message := by
  obtain ⟨rfl,hcredentials⟩ := h
  have hmac : c.marginMode = .portfolio → c.mac = c.secret := fun hm => by
    rw [Config.Account.mac,if_pos (.inl hm)]
  cases signing with
  | logon frame =>
    simp only [Signers.sign] at hs
    split_ifs at hs with hmode
    obtain ⟨⟨sent,account'⟩,htext,he⟩ := Option.map_eq_some_iff.mp hs
    cases he
    refine ⟨⟨rfl,(SessionLogon.keeps_text htext).trans hcredentials⟩,?_⟩
    have hkey : account.crypto.key = c.login := congrArg Crypto.Credentials.key hcredentials
    have hpkey : account.crypto.pkey = c.secret :=
      (congrArg Crypto.Credentials.pkey hcredentials).trans (if_pos hmode)
    have hverifies := SessionLogon.verifies_text hlawful htext
    rw [hkey,hpkey] at hverifies
    exact hverifies
  | margin call =>
    simp only [Signers.sign] at hs
    split_ifs at hs with hmode
    obtain ⟨⟨request,account'⟩,hrequest,he⟩ := Option.map_eq_some_iff.mp hs
    cases he
    obtain ⟨method,path,text,hbody⟩ := OrderEntryMargin.exists_bodyNew hrequest
    obtain ⟨hkeeps,hheaders⟩ := RestRequest.keeps_bodyNew hbody
    have hverifies := (RestRequest.signed_bodyNew hlawful hbody).verifies
    rw [hkeeps.trans hcredentials] at hverifies
    refine ⟨⟨rfl,hkeeps.trans hcredentials⟩,?_,?_⟩
    · rw [hheaders]
      exact congrArg Crypto.Credentials.headersNew hcredentials
    · have hpkey : Crypto.Scheme.ed25519.key c.crypto.credentials = c.secret := if_pos hmode
      rw [← hpkey]
      exact hverifies
  | portfolio call =>
    simp only [Signers.sign] at hs
    split_ifs at hs with hmode
    obtain ⟨⟨request,account'⟩,hrequest,he⟩ := Option.map_eq_some_iff.mp hs
    cases he
    obtain ⟨hkeeps,hheaders⟩ := OrderEntryPortfolio.keeps_restRequest hrequest
    refine ⟨⟨rfl,hkeeps.trans hcredentials⟩,?_,?_⟩
    · rw [hheaders]
      exact congrArg Crypto.Credentials.headersOld hcredentials
    · split_ifs with hcall
      · subst hcall
        cases hrequest
        exact ⟨rfl,rfl⟩
      · have hverifies := (OrderEntryPortfolio.signed_restRequest hlawful hcall hrequest).verifies
        rw [hkeeps.trans hcredentials] at hverifies
        have hsecret : Crypto.Scheme.classic.key c.crypto.credentials = c.secret :=
          hmac (not_not.mp hmode)
        rw [← hsecret]
        exact hverifies

/-- The accounts hold what the configuration has under their names, and so did what was sent. -/
structure Faithful (utils : Utils W) (sections : List Config.Section) (s : Signers) : Prop where
  accounts : ∀ name marginMode account, s.accounts name = some (marginMode,account) →
    ∃ c, Config.account name sections = some c ∧ Holds c marginMode account
  sent : ∀ x ∈ s.sent, ∃ c, Config.account x.1 sections = some c ∧ Authentic utils c x.2.1 x.2.2

theorem faithful_init {names : Names} {sections : List Config.Section} {config : Config}
    (hload : Config.load names sections = .ok config) {keys : Keys}
    {accounts : List (String × MarginMode × Account)}
    (h : createAccounts keys config = .ok accounts) :
    Faithful utils sections (machine utils sapi papi recvWindow accounts).init := by
  refine ⟨?_,fun x hx => by cases hx⟩
  intro name marginMode account hget
  change accounts.lookup name = some (marginMode,account) at hget
  rw [lookup_createAccounts hload h] at hget
  obtain ⟨c,hc,he⟩ := Option.map_eq_some_iff.mp hget
  cases he
  exact ⟨c,hc,rfl,rfl⟩

theorem preserves_faithful (hlawful : utils.Lawful) (sections : List Config.Section)
    (accounts : List (String × MarginMode × Account)) :
    (machine utils sapi papi recvWindow accounts).Preserves (Faithful utils sections) := by
  rintro s ⟨name,now,signing⟩ s' h hn
  obtain ⟨⟨marginMode,account⟩,hget,hn⟩ := Option.bind_eq_some_iff.mp hn
  obtain ⟨⟨message,account'⟩,hsign,rfl⟩ := Option.map_eq_some_iff.mp hn
  obtain ⟨c,hc,hholds⟩ := h.accounts name marginMode account hget
  obtain ⟨hholds',hauthentic⟩ := hholds.sign hlawful hsign
  refine ⟨?_,?_⟩
  · intro name' marginMode' account'' hget'
    by_cases hname : name' = name
    · subst hname
      change Function.update s.accounts name' (some (marginMode,account')) name' = _ at hget'
      rw [Function.update_self] at hget'
      cases hget'
      exact ⟨c,hc,hholds'⟩
    · change Function.update s.accounts name (some (marginMode,account')) name' = _ at hget'
      rw [Function.update_of_ne hname] at hget'
      exact h.accounts name' marginMode' account'' hget'
  · intro x hx
    rcases List.mem_append.mp hx with hx | hx
    · exact h.sent x hx
    · obtain rfl := List.mem_singleton.mp hx
      exact ⟨c,hc,hauthentic⟩

end

/-- A spot account, and a portfolio account that has a second key. -/
def sampleSections : List Config.Section :=
  [.account ⟨"A1",.undefined,true,"key","secret","",""⟩,
   .account ⟨"P1",.portfolio,false,"key1","secret1","key2",""⟩]

def sampleEvents : List (String × ℕ × Signing) :=
  [("A1",1674303865000,.logon ⟨⟨1,.SESSION_LOGON,0,0,0,0⟩,"session.logon",
     .sessionLogon 1674303865000⟩),
   ("P1",1674303865000,.portfolio .account)]

end Signers

end RoqBinance.Gateway
