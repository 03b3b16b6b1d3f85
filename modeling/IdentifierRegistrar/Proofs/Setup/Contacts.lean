import IdentifierRegistrar.Proofs.Agency.HandedOut
import IdentifierRegistrar.Proofs.Operation.Adding
import IdentifierRegistrar.Proofs.Operation.Fitting
import IdentifierRegistrar.Proofs.Setup.Settings

/-!
Who is contacted. Settings that can be read make a connector for each scheme, so that no operation ends
for want of one. It goes to the provider's address exactly where the provider's flag is on; elsewhere it
makes no request, whatever address and credentials are there (`Config.contacts_exact`).
-/

namespace IdentifierRegistrar

open Program

namespace Connector

variable {connector : Connector}

theorem offline_silent (minter : Minter) (call : Agency.Call) : ((offline minter).perform call).Silent := by
  cases call with
  | mint record => exact silent_ofExcept _
  | change change => exact silent_done ()
  | isReserved v => exact silent_done false
  | isRegistered v => exact silent_done false

theorem ask_not_silent {I : Interface} {ε α : Type} (q : I.Request) (next : I.Reply q → Program I ε α) :
    ¬(ask q next).Silent := by
  rintro ⟨x, hx⟩
  cases x <;> cases hx

theorem ark_not_silent (service : Agency.ArkService) :
    ∃ call, ¬((ark service).perform call).Silent :=
  ⟨.mint ⟨0⟩, ask_not_silent _ _⟩

def someDoi : IdentifierValue := ⟨.doi, "doi:10.5072/x", by decide⟩

theorem doi_not_silent (service : Agency.DoiService) (registrant separator : String) :
    ∃ call, ¬((doi service registrant separator).perform call).Silent := by
  refine ⟨.isReserved someDoi, ?_⟩
  obtain ⟨name, hname⟩ := IdentifierValue.exists_doiName (show someDoi.scheme = .doi from rfl)
  have hperform : (doi service registrant separator).perform (.isReserved someDoi) =
      (do return (← service.state? (← Agency.DoiService.nameOf someDoi)) == some .draft) := rfl
  rw [hperform, Agency.DoiService.nameOf, hname]
  exact ask_not_silent _ _

end Connector

namespace Config

variable {lookup : String → Option String} {c : Config} {scheme : Scheme} {key : String}

def online (c : Config) (address part : String) : Scheme → Connector
  | .dark => .ark (.ofAddress address part)
  | .doi => .doi (.ofAddress address c.doi.username c.doi.password) part c.doi.separator

def offline (c : Config) (part : String) : Scheme → Connector
  | .dark => .offline (.dark part)
  | .doi => .offline (.doi part c.doi.separator)

inductive Contacts (lookup : String → Option String) (c : Config) (scheme : Scheme) : Connector → Prop
  | online {address part : String} (hflag : Flag lookup (enabledKey scheme) true)
    (haddress : Given lookup (addressKey scheme) address) (hpart : Given lookup (partKey scheme) part) :
    Contacts lookup c scheme (c.online address part scheme)
  | offline {part : String} (hflag : Flag lookup (enabledKey scheme) false)
    (hpart : Filled lookup (partKey scheme) (standardPart scheme) part) :
    Contacts lookup c scheme (c.offline part scheme)

theorem Flag.unique {b b' : Bool} (h : Flag lookup key b) (h' : Flag lookup key b') : b = b' :=
  Except.ok.inj ((readFlag_eq_ok_iff.2 h).symm.trans (readFlag_eq_ok_iff.2 h'))

theorem Contacts.silent_iff {connector : Connector} (h : Contacts lookup c scheme connector) :
    (∀ call, (connector.perform call).Silent) ↔ Flag lookup (enabledKey scheme) false := by
  cases h with
  | online hflag haddress hpart =>
    refine iff_of_false (fun hsilent => ?_) fun hoff => by cases hflag.unique hoff
    cases scheme with
    | dark =>
      obtain ⟨call, hcall⟩ := Connector.ark_not_silent (.ofAddress _ _)
      exact hcall (hsilent call)
    | doi =>
      obtain ⟨call, hcall⟩ := Connector.doi_not_silent (.ofAddress _ _ _) _ _
      exact hcall (hsilent call)
  | offline hflag hpart =>
    refine iff_of_true (fun call => ?_) hflag
    cases scheme with
    | dark => exact Connector.offline_silent _ call
    | doi => exact Connector.offline_silent _ call

/-- What is set for a provider that is on is given. -/
theorem Provides.given {address : Option String} {part : String}
    (h : Provides lookup scheme true address part) :
    (∃ text, address = some text ∧ Given lookup (addressKey scheme) text) ∧
      Given lookup (partKey scheme) part := by
  obtain ⟨text, part', htext, hpart'⟩ := h.ready rfl
  constructor
  · have haddress := valued_iff.1 h.address
    rw [given?_eq_some_iff.2 htext] at haddress
    exact ⟨text, haddress.symm, htext⟩
  · have hpart := filled_iff.1 h.part
    rw [given?_eq_some_iff.2 hpart', Option.getD_some] at hpart
    exact hpart ▸ hpart'

theorem contacts_dark (h : Describes lookup c) : Contacts lookup c .dark (darkConnector c.dark) := by
  have hdark := h.dark
  cases henabled : c.dark.enabled with
  | true =>
    rw [henabled] at hdark
    obtain ⟨⟨address, haddress, hgiven⟩, hpart⟩ := hdark.given
    rw [darkConnector, henabled, haddress]
    exact .online hdark.flag hgiven hpart
  | false =>
    rw [henabled] at hdark
    rw [darkConnector, henabled]
    exact .offline hdark.flag hdark.part

theorem contacts_doi (h : Describes lookup c) : Contacts lookup c .doi (doiConnector c.doi) := by
  have hdoi := h.doi
  cases henabled : c.doi.enabled with
  | true =>
    rw [henabled] at hdoi
    obtain ⟨⟨address, haddress, hgiven⟩, hpart⟩ := hdoi.given
    rw [doiConnector, henabled, haddress]
    exact .online hdoi.flag hgiven hpart
  | false =>
    rw [henabled] at hdoi
    rw [doiConnector, henabled]
    exact .offline hdoi.flag hdoi.part

theorem contacts_get? (h : Describes lookup c) (scheme : Scheme) :
    ∃ connector, c.connectors.get? scheme = some connector ∧ connector.scheme = scheme ∧
      Contacts lookup c scheme connector := by
  cases scheme with
  | dark => exact ⟨_, rfl, scheme_darkConnector _, contacts_dark h⟩
  | doi => exact ⟨_, rfl, scheme_doiConnector _, contacts_doi h⟩

/-- What the keys have to give for settings to be read, and who is contacted then. -/
theorem contacts_exact (lookup : String → Option String) :
    ((∃ c, read lookup = .ok c) ↔
      (∃ n, Seconds lookup "PIDREG_SWEEP_INTERVAL_SECS" 60 n) ∧
      (∃ n, Seconds lookup "PIDREG_HTTP_TIMEOUT_SECS" 10 n) ∧ ∀ scheme, Ready lookup scheme) ∧
    (∀ key text, (∀ c ∈ text.toList, Text.isSpace c = true) →
      read (Function.update lookup key (some text)) = read (Function.update lookup key none)) ∧
    ∀ c, read lookup = .ok c →
      (∀ scheme, ∃ connector, c.connectors.get? scheme = some connector ∧ connector.scheme = scheme ∧
        Contacts lookup c scheme connector ∧
        ((∀ call, (connector.perform call).Silent) ↔ Flag lookup (enabledKey scheme) false)) ∧
      ∀ (policy : ReleasePolicy) (σ : Type) (answer : Answerer Service.interface σ) (s : σ)
        (scheme : Scheme),
        (∀ e : Errand, ((e.operation (c.connectors.registrar policy)).run answer s).1 ≠
          .error (.noConnector scheme)) ∧
        ∀ r, (((c.connectors.registrar policy).drive r).run answer s).1 ≠ .error (.noConnector scheme) := by
  refine ⟨exists_read_iff, fun key text h => read_update_blank lookup key h,
    fun c hc => ⟨fun scheme => ?_, ?_⟩⟩
  · obtain ⟨connector, hget, hscheme, hcontacts⟩ := contacts_get? (read_eq_ok_iff.1 hc) scheme
    exact ⟨connector, hget, hscheme, hcontacts, hcontacts.silent_iff⟩
  · intro policy σ answer s scheme
    have hconnected (scheme : Scheme) : (c.connectors.registrar policy).connected scheme := by
      cases scheme <;> rfl
    refine ⟨fun e => (e.operation_proper _).run_ne hconnected answer s scheme, fun r => ?_⟩
    have hdrive : Operation.Proper (c.connectors.registrar policy) False _ := Registrar.drive_proper r
    exact hdrive.run_ne hconnected answer s scheme

def sampleKeys : String → Option String
  | "PIDREG_SWEEP_INTERVAL_SECS" => some "  "
  | "PIDREG_HTTP_TIMEOUT_SECS" => some " +30"
  | "PIDREG_DARK_ENABLED" => some " Yes"
  | "PIDREG_DARK_BASE_URL" => some "https://dark.example/"
  | "PIDREG_DARK_REPO_PREFIX" => some "hope"
  | "PIDREG_DOI_BASE_URL" => some "https://doi.example"
  | "PIDREG_DOI_PASSWORD" => some "secret"
  | _ => none

def sampleConfig : Config where
  databasePath := "pidreg.db"
  logLevel := "info"
  sweepSeconds := 60
  timeoutSeconds := 30
  repositoryApi := none
  policy := .standard
  dark := ⟨true, some "https://dark.example/", "hope"⟩
  doi := ⟨false, some "https://doi.example", "10.5072", "", none, some "secret"⟩

theorem sample_contacted :
    read sampleKeys = .ok sampleConfig ∧
    (∀ c, sampleConfig.connectors.get? .dark = some c → ¬∀ call, (c.perform call).Silent) ∧
    (∀ c, sampleConfig.connectors.get? .doi = some c → ∀ call, (c.perform call).Silent) ∧
    read (Function.update sampleKeys "PIDREG_DARK_BASE_URL" (some " ")) =
      read (Function.update sampleKeys "PIDREG_DARK_BASE_URL" none) := by
  have hread : read sampleKeys = .ok sampleConfig := by decide +kernel
  have hon : Flag sampleKeys (enabledKey .dark) true := readFlag_eq_ok_iff.1 (by decide +kernel)
  have hoff : Flag sampleKeys (enabledKey .doi) false := readFlag_eq_ok_iff.1 (by decide +kernel)
  have hspace : " ".toList.all Text.isSpace = true := by decide
  obtain ⟨-, hblank, hcontacts⟩ := contacts_exact sampleKeys
  obtain ⟨hconnectors, -⟩ := hcontacts sampleConfig hread
  refine ⟨hread, fun c hc hsilent => ?_, fun c hc => ?_, hblank _ _ (List.all_eq_true.1 hspace)⟩
  · obtain ⟨c', hc', -, -, hiff⟩ := hconnectors .dark
    obtain rfl := Option.some.inj (hc.symm.trans hc')
    cases hon.unique (hiff.1 hsilent)
  · obtain ⟨c', hc', -, -, hiff⟩ := hconnectors .doi
    obtain rfl := Option.some.inj (hc.symm.trans hc')
    exact hiff.2 hoff

end Config

end IdentifierRegistrar
