import RoqBinance.Gateway.Shared
import RoqBinance.Library.Tables
import RoqBinance.Protocol.Json.CancelEncoder

/-! The configuration: the accounts, and the templates that requests name by a label. -/
namespace RoqBinance.Protocol.Json

inductive CancelReplaceMode | undefinedInternal | unknownInternal | stopOnFailure | allowFailure
  deriving DecidableEq, Repr

/-- How the enumerations read a name. -/
structure Names where
  selfTradePreventionMode : String → SelfTradePreventionMode
  cancelRestrictions : String → CancelRestrictions
  cancelReplaceMode : String → CancelReplaceMode

/-- A name that is read as a value is the text of the value. -/
structure Names.Sound (names : Names) (f : Formats) : Prop where
  selfTradePreventionMode : ∀ name,
    names.selfTradePreventionMode name ≠ .undefinedInternal →
    names.selfTradePreventionMode name ≠ .unknownInternal →
    (names.selfTradePreventionMode name).asRawText f = name
  cancelRestrictions : ∀ name,
    names.cancelRestrictions name ≠ .undefinedInternal →
    names.cancelRestrictions name ≠ .unknownInternal →
    (names.cancelRestrictions name).asRawText f = name

end RoqBinance.Protocol.Json

namespace RoqBinance.Gateway
open Library Protocol.Json

/-- A table of the file has different keys; the values are strings. -/
structure Table where
  entries : List (String × String)
  nodup : (entries.map Prod.fst).Nodup

inductive RequestTemplate | createOrder | modifyOrder | cancelOrder
  deriving DecidableEq, Repr

namespace Config

structure Account where
  name : String
  marginMode : MarginMode
  master : Bool
  login : String
  secret : String
  login2 : String
  secret2 : String
  deriving DecidableEq, Repr

/-- The mode of a replacement is read, and no encoder writes it. -/
structure CancelOrderTemplate extends Protocol.Json.CancelOrderTemplate where
  cancelReplaceMode : CancelReplaceMode
  deriving DecidableEq, Repr

/-- What the reader finds in the file, in its order; `other` is a key that it does not know. -/
inductive Section
  | account (account : Account)
  | requestTemplate (requestTemplate : RequestTemplate) (label : String) (table : Table)
  | other (key : String)

end Config

structure Config where
  accounts : List (String × Config.Account)
  masterAccount : String
  createOrderTemplates : List (String × CreateOrderTemplate)
  cancelOrderTemplates : List (String × Config.CancelOrderTemplate)
  deriving DecidableEq, Repr

namespace Config

def empty : Config := ⟨[],"",[],[]⟩

def unexpected {α : Type} (key : String) : Except String α :=
  .error ("Unexpected: key=\"" ++ key ++ "\"")

/-- Read a value by its enumeration. -/
def readValue {α : Type} [DecidableEq α] (parse : String → α) (unknown : α) (value : String) :
    Except String α :=
  if parse value = unknown then .error ("Unknown: value=\"" ++ value ++ "\"")
  else .ok (parse value)

def defaultCreateOrder : CreateOrderTemplate := ⟨.undefinedInternal⟩
def defaultCancelOrder : CancelOrderTemplate := ⟨⟨.undefinedInternal⟩,.undefinedInternal⟩

section
variable (names : Names)

def onCreateOrderEntry (template : CreateOrderTemplate) (entry : String × String) :
    Except String CreateOrderTemplate :=
  if entry.1 = "self_trade_prevention_mode" then
    (readValue names.selfTradePreventionMode .unknownInternal entry.2).map fun value =>
      {template with selfTradePreventionMode := value}
  else unexpected entry.1

def onCancelOrderEntry (template : CancelOrderTemplate) (entry : String × String) :
    Except String CancelOrderTemplate :=
  if entry.1 = "cancel_restrictions" then
    (readValue names.cancelRestrictions .unknownInternal entry.2).map fun value =>
      {template with cancelRestrictions := value}
  else if entry.1 = "cancel_replace_mode" then
    (readValue names.cancelReplaceMode .unknownInternal entry.2).map fun value =>
      {template with cancelReplaceMode := value}
  else unexpected entry.1

def onRequestTemplate (requestTemplate : RequestTemplate) (label : String) (table : Table)
    (config : Config) : Except String Config :=
  match requestTemplate with
  | .createOrder =>
    (table.entries.foldlM (onCreateOrderEntry names) defaultCreateOrder).map fun template =>
      {config with createOrderTemplates := tryEmplace label template config.createOrderTemplates}
  | .modifyOrder => .ok config
  | .cancelOrder =>
    (table.entries.foldlM (onCancelOrderEntry names) defaultCancelOrder).map fun template =>
      {config with cancelOrderTemplates := tryEmplace label template config.cancelOrderTemplates}

/-- The last account that is marked is the master, also when its name was taken before. -/
def onAccount (account : Account) (config : Config) : Config :=
  let config := if account.master then {config with masterAccount := account.name} else config
  {config with accounts := tryEmplace account.name account config.accounts}

/-- An unknown key is logged. -/
def onSection (config : Config) : Section → Except String Config
  | .account account => .ok (onAccount account config)
  | .requestTemplate requestTemplate label table =>
    onRequestTemplate names requestTemplate label table config
  | .other _ => .ok config

/-- A fatal error ends the process. -/
def load (sections : List Section) : Except String Config := sections.foldlM (onSection names) empty

end

section
variable (config : Config)

def getAccount (account : String) : Except String Account :=
  match config.accounts.lookup account with
  | some x => .ok x
  | none => .error ("Unknown account=\"" ++ account ++ "\"")

def getApiKey (account : String) : Except String String := (config.getAccount account).map Account.login
def getSecret (account : String) : Except String String := (config.getAccount account).map Account.secret
def getApiKey2 (account : String) : Except String String :=
  (config.getAccount account).map Account.login2
def getSecret2 (account : String) : Except String String :=
  (config.getAccount account).map Account.secret2

/-- The template of a label; without a label it is that of the defaults. -/
def find {α : Type} (templates : List (String × α)) (default : α) (text name : String) :
    Except Exception α :=
  if name = "" then .ok default
  else
    match templates.lookup name with
    | some template => .ok template
    | none => .error (.rejected .gateway .invalidRequestTemplate text)

def getCreateOrderTemplate (name : String) : Except Exception CreateOrderTemplate :=
  find config.createOrderTemplates defaultCreateOrder "create_order_template" name

def getCancelOrderTemplate (name : String) : Except Exception CancelOrderTemplate :=
  find config.cancelOrderTemplates defaultCancelOrder "cancel_order_template" name

/-- The streams see the labels. -/
def share (shared : Shared) : Shared :=
  {shared with
    createOrderTemplates := config.createOrderTemplates.map Prod.fst
    cancelOrderTemplates := config.cancelOrderTemplates.map Prod.fst}

theorem find_map {α : Type} (templates : List (String × α)) (default : α) (text name : String) :
    (find templates default text name).map (fun _ => ()) =
      if name = "" then .ok ()
      else if name ∈ templates.map Prod.fst then .ok ()
      else .error (.rejected .gateway .invalidRequestTemplate text) := by
  unfold find
  by_cases hname : name = ""
  · rw [if_pos hname,if_pos hname]
    rfl
  · rw [if_neg hname,if_neg hname]
    cases hlookup : templates.lookup name with
    | none =>
      rw [if_neg]
      · rfl
      · rw [mem_keys_iff,hlookup]
        simp
    | some template =>
      rw [if_pos]
      · rfl
      · rw [mem_keys_iff,hlookup]
        rfl

/-- A stream goes on with a request exactly when the configuration has its template. -/
theorem getCreateOrderTemplate_share (shared : Shared) (name : String) :
    (config.share shared).getCreateOrderTemplate name =
      (config.getCreateOrderTemplate name).map fun _ => () := (find_map _ _ _ _).symm

theorem getCancelOrderTemplate_share (shared : Shared) (name : String) :
    (config.share shared).getCancelOrderTemplate name =
      (config.getCancelOrderTemplate name).map fun _ => () := (find_map _ _ _ _).symm

end

/-- The table of the first template of that kind with the label. -/
def template (requestTemplate : RequestTemplate) (label : String) (sections : List Section) :
    Option Table :=
  sections.findSome? fun
    | .requestTemplate r l table => if r = requestTemplate ∧ l = label then some table else none
    | _ => none

/-- The first account of that name. -/
def account (name : String) (sections : List Section) : Option Account :=
  sections.findSome? fun
    | .account account => if account.name = name then some account else none
    | _ => none

theorem map_eq_ok {ε α β : Type} {e : Except ε α} {f : α → β} {b : β} :
    e.map f = .ok b ↔ ∃ a, e = .ok a ∧ f a = b := by
  cases e with
  | error e => simp [Except.map]
  | ok a => simp [Except.map]

theorem readValue_eq_ok {α : Type} [DecidableEq α] {parse : String → α} {unknown : α}
    {value : String} {x : α} :
    readValue parse unknown value = .ok x ↔ parse value ≠ unknown ∧ parse value = x := by
  unfold readValue
  split_ifs with h
  · simp [h]
  · simp [h]

section
variable (names : Names)

def createOrderOf (table : Table) : CreateOrderTemplate :=
  ⟨((table.entries.lookup "self_trade_prevention_mode").map
    names.selfTradePreventionMode).getD .undefinedInternal⟩

def cancelOrderOf (table : Table) : CancelOrderTemplate :=
  ⟨⟨((table.entries.lookup "cancel_restrictions").map
      names.cancelRestrictions).getD .undefinedInternal⟩,
    ((table.entries.lookup "cancel_replace_mode").map
      names.cancelReplaceMode).getD .undefinedInternal⟩

/-- All keys are known, and so are the values under them. -/
def Section.Valid : Section → Prop
  | .requestTemplate .createOrder _ table => ∀ entry ∈ table.entries,
    entry.1 = "self_trade_prevention_mode" ∧
      names.selfTradePreventionMode entry.2 ≠ .unknownInternal
  | .requestTemplate .cancelOrder _ table => ∀ entry ∈ table.entries,
    entry.1 = "cancel_restrictions" ∧ names.cancelRestrictions entry.2 ≠ .unknownInternal ∨
    entry.1 = "cancel_replace_mode" ∧ names.cancelReplaceMode entry.2 ≠ .unknownInternal
  | _ => True

variable {names}

theorem onCreateOrderEntry_eq_ok {template template' : CreateOrderTemplate}
    {entry : String × String} :
    onCreateOrderEntry names template entry = .ok template' ↔
      (entry.1 = "self_trade_prevention_mode" ∧
        names.selfTradePreventionMode entry.2 ≠ .unknownInternal) ∧
      template' = ⟨names.selfTradePreventionMode entry.2⟩ := by
  unfold onCreateOrderEntry
  split_ifs with hkey
  · simp only [map_eq_ok, readValue_eq_ok, hkey, true_and]
    constructor
    · rintro ⟨x,⟨hne,rfl⟩,rfl⟩; exact ⟨hne,rfl⟩
    · rintro ⟨hne,rfl⟩; exact ⟨_,⟨hne,rfl⟩,rfl⟩
  · simp [unexpected, hkey]

theorem onCancelOrderEntry_eq_ok {template template' : CancelOrderTemplate}
    {entry : String × String} :
    onCancelOrderEntry names template entry = .ok template' ↔
      entry.1 = "cancel_restrictions" ∧ names.cancelRestrictions entry.2 ≠ .unknownInternal ∧
        template' = {template with cancelRestrictions := names.cancelRestrictions entry.2} ∨
      entry.1 = "cancel_replace_mode" ∧ names.cancelReplaceMode entry.2 ≠ .unknownInternal ∧
        template' = {template with cancelReplaceMode := names.cancelReplaceMode entry.2} := by
  unfold onCancelOrderEntry
  split_ifs with hrestrictions hmode
  · simp only [map_eq_ok, readValue_eq_ok, hrestrictions, true_and, String.reduceEq, false_and,
      or_false]
    constructor
    · rintro ⟨x,⟨hne,rfl⟩,rfl⟩; exact ⟨hne,rfl⟩
    · rintro ⟨hne,rfl⟩; exact ⟨_,⟨hne,rfl⟩,rfl⟩
  · simp only [map_eq_ok, readValue_eq_ok, hmode, true_and, String.reduceEq, false_and, false_or]
    constructor
    · rintro ⟨x,⟨hne,rfl⟩,rfl⟩; exact ⟨hne,rfl⟩
    · rintro ⟨hne,rfl⟩; exact ⟨_,⟨hne,rfl⟩,rfl⟩
  · simp [unexpected, hrestrictions, hmode]

theorem read_createOrder {table : Table} {template : CreateOrderTemplate}
    (h : table.entries.foldlM (onCreateOrderEntry names) defaultCreateOrder = .ok template) :
    template = createOrderOf names table := by
  have hmode := foldlM_view CreateOrderTemplate.selfTradePreventionMode
    (fun value entry => if entry.1 == "self_trade_prevention_mode" then
      names.selfTradePreventionMode entry.2 else value) (fun x _ {t t'} ht => by
        obtain ⟨⟨hkey,-⟩,rfl⟩ := onCreateOrderEntry_eq_ok.mp ht
        simp [hkey]) h
  rw [foldl_set names.selfTradePreventionMode _ table.nodup] at hmode
  obtain ⟨mode⟩ := template
  exact congrArg CreateOrderTemplate.mk hmode

theorem read_cancelOrder {table : Table} {template : CancelOrderTemplate}
    (h : table.entries.foldlM (onCancelOrderEntry names) defaultCancelOrder = .ok template) :
    template = cancelOrderOf names table := by
  have hrestrictions := foldlM_view (fun t : CancelOrderTemplate => t.cancelRestrictions)
    (fun value entry => if entry.1 == "cancel_restrictions" then
      names.cancelRestrictions entry.2 else value) (fun x _ {t t'} ht => by
        rcases onCancelOrderEntry_eq_ok.mp ht with ⟨hkey,-,rfl⟩ | ⟨hkey,-,rfl⟩
        · simp [hkey]
        · simp [hkey]) h
  have hmode := foldlM_view CancelOrderTemplate.cancelReplaceMode
    (fun value entry => if entry.1 == "cancel_replace_mode" then
      names.cancelReplaceMode entry.2 else value) (fun x _ {t t'} ht => by
        rcases onCancelOrderEntry_eq_ok.mp ht with ⟨hkey,-,rfl⟩ | ⟨hkey,-,rfl⟩
        · simp [hkey]
        · simp [hkey]) h
  rw [foldl_set names.cancelRestrictions _ table.nodup] at hrestrictions
  rw [foldl_set names.cancelReplaceMode _ table.nodup] at hmode
  obtain ⟨⟨restrictions⟩,mode⟩ := template
  exact congrArg₂ (fun r m => CancelOrderTemplate.mk ⟨r⟩ m) hrestrictions hmode

theorem onSection_isOk_iff (config : Config) (x : Section) :
    (∃ config', onSection names config x = .ok config') ↔ x.Valid names := by
  cases x with
  | account account => exact ⟨fun _ => trivial,fun _ => ⟨_,rfl⟩⟩
  | other key => exact ⟨fun _ => trivial,fun _ => ⟨_,rfl⟩⟩
  | requestTemplate requestTemplate label table =>
    have hmap : ∀ {α β : Type} {e : Except String α} {f : α → β},
        (∃ b, e.map f = .ok b) ↔ ∃ a, e = .ok a := by
      intro α β e f
      simp only [map_eq_ok]
      exact ⟨fun ⟨_,a,ha,_⟩ => ⟨a,ha⟩,fun ⟨a,ha⟩ => ⟨_,a,ha,rfl⟩⟩
    cases requestTemplate with
    | modifyOrder => exact ⟨fun _ => trivial,fun _ => ⟨_,rfl⟩⟩
    | createOrder =>
      refine hmap.trans (foldlM_isOk_iff ?_ _)
      intro entry _ template
      simp only [onCreateOrderEntry_eq_ok]
      exact ⟨fun ⟨_,h,_⟩ => h,fun h => ⟨_,h,rfl⟩⟩
    | cancelOrder =>
      refine hmap.trans (foldlM_isOk_iff ?_ _)
      intro entry _ template
      simp only [onCancelOrderEntry_eq_ok]
      constructor
      · rintro ⟨_,⟨hkey,hne,-⟩ | ⟨hkey,hne,-⟩⟩
        · exact .inl ⟨hkey,hne⟩
        · exact .inr ⟨hkey,hne⟩
      · rintro (⟨hkey,hne⟩ | ⟨hkey,hne⟩)
        · exact ⟨_,.inl ⟨hkey,hne,rfl⟩⟩
        · exact ⟨_,.inr ⟨hkey,hne,rfl⟩⟩

theorem load_isOk_iff (sections : List Section) :
    (∃ config, load names sections = .ok config) ↔ ∀ x ∈ sections, x.Valid names :=
  foldlM_isOk_iff (fun x _ config => onSection_isOk_iff config x) empty

/-- What the sections put under a key of one of the tables. -/
theorem lookup_load {α : Type} {get : Config → List (String × α)} (hempty : get empty = [])
    {key : String} {found : Section → Option α}
    (hstep : ∀ {config x config'}, onSection names config x = .ok config' →
      (get config').lookup key = ((get config).lookup key).or (found x))
    {sections : List Section} {config : Config} (h : load names sections = .ok config) :
    (get config).lookup key = sections.findSome? found := by
  rw [foldlM_view (fun config => (get config).lookup key)
    (fun value x => value.or (found x)) (fun _ _ => hstep) h,foldl_or,hempty]
  rfl

theorem lookup_createOrderTemplates {sections : List Section} {config : Config}
    (h : load names sections = .ok config) (label : String) :
    config.createOrderTemplates.lookup label =
      (template .createOrder label sections).map (createOrderOf names) := by
  rw [template,List.map_findSome?]
  refine lookup_load rfl ?_ h
  intro config x config' hx
  cases x with
  | account account => cases hx; simp [onAccount]; split_ifs <;> rfl
  | other key => cases hx; simp
  | requestTemplate requestTemplate l table =>
    cases requestTemplate with
    | modifyOrder => cases hx; simp
    | createOrder =>
      obtain ⟨t,ht,rfl⟩ := map_eq_ok.mp hx
      rw [read_createOrder ht]
      simp only [lookup_tryEmplace, Function.comp_apply, true_and]
      by_cases hl : l = label
      · simp [hl]
      · simp [hl, Ne.symm hl]
    | cancelOrder =>
      obtain ⟨t,-,rfl⟩ := map_eq_ok.mp hx
      simp

theorem lookup_cancelOrderTemplates {sections : List Section} {config : Config}
    (h : load names sections = .ok config) (label : String) :
    config.cancelOrderTemplates.lookup label =
      (template .cancelOrder label sections).map (cancelOrderOf names) := by
  rw [template,List.map_findSome?]
  refine lookup_load rfl ?_ h
  intro config x config' hx
  cases x with
  | account account => cases hx; simp [onAccount]; split_ifs <;> rfl
  | other key => cases hx; simp
  | requestTemplate requestTemplate l table =>
    cases requestTemplate with
    | modifyOrder => cases hx; simp
    | createOrder =>
      obtain ⟨t,-,rfl⟩ := map_eq_ok.mp hx
      simp
    | cancelOrder =>
      obtain ⟨t,ht,rfl⟩ := map_eq_ok.mp hx
      rw [read_cancelOrder ht]
      simp only [lookup_tryEmplace, Function.comp_apply, true_and]
      by_cases hl : l = label
      · simp [hl]
      · simp [hl, Ne.symm hl]

theorem lookup_accounts {sections : List Section} {config : Config}
    (h : load names sections = .ok config) (name : String) :
    config.accounts.lookup name = account name sections := by
  refine lookup_load rfl ?_ h
  intro config x config' hx
  cases x with
  | account account =>
    cases hx
    unfold onAccount
    rw [lookup_tryEmplace]
    by_cases hname : account.name = name
    · simp [hname]; split_ifs <;> rfl
    · simp [hname, Ne.symm hname]; split_ifs <;> rfl
  | other key => cases hx; simp
  | requestTemplate requestTemplate l table =>
    cases requestTemplate with
    | modifyOrder => cases hx; simp
    | createOrder => obtain ⟨t,-,rfl⟩ := map_eq_ok.mp hx; simp
    | cancelOrder => obtain ⟨t,-,rfl⟩ := map_eq_ok.mp hx; simp

/-- Each account is there once, under its own name. -/
theorem accounts_named {sections : List Section} {config : Config}
    (h : load names sections = .ok config) :
    (config.accounts.map Prod.fst).Nodup ∧ ∀ entry ∈ config.accounts, entry.1 = entry.2.name := by
  refine foldlM_keeps (I := fun config => (config.accounts.map Prod.fst).Nodup ∧
    ∀ entry ∈ config.accounts, entry.1 = entry.2.name) ?_ h (by simp [empty])
  intro x _ config config' hx hI
  cases x with
  | account account =>
    cases hx
    have hsame : ∀ config' : Config, config'.accounts = config.accounts →
        ((tryEmplace account.name account config'.accounts).map Prod.fst).Nodup ∧
        ∀ entry ∈ tryEmplace account.name account config'.accounts, entry.1 = entry.2.name := by
      intro config' he
      rw [he]
      refine ⟨keys_tryEmplace hI.1,?_⟩
      intro entry hentry
      rcases mem_tryEmplace hentry with hmem | rfl
      · exact hI.2 entry hmem
      · rfl
    refine hsame _ ?_
    split_ifs <;> rfl
  | other key => cases hx; exact hI
  | requestTemplate requestTemplate l table =>
    cases requestTemplate with
    | modifyOrder => cases hx; exact hI
    | createOrder => obtain ⟨t,-,rfl⟩ := map_eq_ok.mp hx; exact hI
    | cancelOrder => obtain ⟨t,-,rfl⟩ := map_eq_ok.mp hx; exact hI

end

end Config
end RoqBinance.Gateway
