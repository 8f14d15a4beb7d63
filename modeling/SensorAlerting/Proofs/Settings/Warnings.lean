import SensorAlerting.Assembly
import SensorAlerting.Proofs.Entries

set_option autoImplicit false

/-!
Warnings about channels, and what the channels make of them. The warnings look at the settings
alone; whether a channel has a transport is decided where the accounts are made, and whether it
passes over an alert where it sends it. All three agree, if the accounts can be made.
-/

namespace SensorAlerting

open SensorAlerting.Delivery SensorAlerting.Time

namespace Delivery

namespace Channel

def Skips (channel : Channel) : Prop :=
  ∀ alert sentAt start, ∃ report,
    (channel.send alert sentAt start).ending = .reported report ∧ report.status = .skipped

def Serves (channel : Channel) : Prop :=
  ∀ alert sentAt start, ∃ report,
    (channel.send alert sentAt start).ending = .reported report ∧ report.status ≠ .skipped

theorem Serves.not_skips {channel : Channel} (serves : channel.Serves) : ¬ channel.Skips := by
  intro skips
  let alert : Alert :=
    { alertId := "", ruleId := "", category := .threshold, severity := .info, deviceId := ""
      sensorType := none, location := none, timestamp := universal 0, value := .null
      condition := none, message := "", details := [], event := none }
  obtain ⟨report, ends, served⟩ := serves alert (universal 0) ⟨0, 0⟩
  obtain ⟨same, endsToo, skipped⟩ := skips alert (universal 0) ⟨0, 0⟩
  obtain rfl := Ending.reported.inj (ends.symm.trans endsToo)
  exact served skipped

def Obeys (channel : Channel) (complete : Prop) : Prop :=
  (complete -> channel.Serves) ∧ (¬ complete -> channel.Skips)

theorem Obeys.skips_iff {channel : Channel} {complete : Prop} (obeys : channel.Obeys complete) :
    channel.Skips ↔ ¬ complete :=
  ⟨fun skips isComplete => (obeys.1 isComplete).not_skips skips, obeys.2⟩

theorem Obeys.of_iff {channel : Channel} {complete other : Prop} (obeys : channel.Obeys complete)
    (same : other ↔ complete) : channel.Obeys other :=
  ⟨fun isOther => obeys.1 (same.mp isOther), fun notOther => obeys.2 (mt same.mpr notOther)⟩

theorem ofResults_status (name : String) (results : List TargetResult) :
    (Report.ofResults name results).status ≠ .skipped := by
  unfold Report.ofResults
  dsimp only
  split <;> nofun

variable (transport : Option Transport) (targets : List String)

theorem obeys_email :
    (email transport targets).Obeys (transport.isSome = true ∧ targets.isEmpty = false) := by
  cases transport with
  | none => exact ⟨nofun, fun _ _ _ _ => ⟨_, rfl, rfl⟩⟩
  | some transport =>
    cases targets with
    | nil => exact ⟨nofun, fun _ _ _ _ => ⟨_, rfl, rfl⟩⟩
    | cons first rest =>
      -- One message goes to all of the targets, so that its reply decides for all.
      refine ⟨fun _ alert sentAt start => ⟨_, rfl, ?_⟩,
        fun incomplete => absurd ⟨rfl, rfl⟩ incomplete⟩
      cases (transport.behaviour (first :: rest)).reply with
      | none => exact ofResults_status _ _
      | some reply =>
        cases reply with
        | accepted status => exact ofResults_status _ _
        | refused | expired => nofun

theorem obeys_webhook (timeout : Value) :
    (webhook transport targets timeout).Obeys
      (transport.isSome = true ∧ targets.isEmpty = false) := by
  cases transport with
  | none => exact ⟨nofun, fun _ _ _ _ => ⟨_, rfl, rfl⟩⟩
  | some transport =>
    cases targets with
    | nil => exact ⟨nofun, fun _ _ _ _ => ⟨_, rfl, rfl⟩⟩
    | cons first rest =>
      exact ⟨fun _ _ _ _ => ⟨_, rfl, ofResults_status _ _⟩,
        fun incomplete => absurd ⟨rfl, rfl⟩ incomplete⟩

theorem obeys_sms :
    (sms transport targets).Obeys (transport.isSome = true ∧ targets.isEmpty = false) := by
  cases transport with
  | none => exact ⟨nofun, fun _ _ _ _ => ⟨_, rfl, rfl⟩⟩
  | some transport =>
    cases targets with
    | nil => exact ⟨nofun, fun _ _ _ _ => ⟨_, rfl, rfl⟩⟩
    | cons first rest =>
      exact ⟨fun _ _ _ _ => ⟨_, rfl, ofResults_status _ _⟩,
        fun incomplete => absurd ⟨rfl, rfl⟩ incomplete⟩

end Channel

theorem SmsAccount.create_texts (accountId authToken : String) (phoneNumber : Value) :
    let created := create (.ofText? (some accountId)) (.ofText? (some authToken)) phoneNumber
      defaultTimeout defaultBaseUrl
    if ':' ∈ accountId.toList then created = .error .impossible
    else ∃ account, created = .ok account := by
  dsimp only [Value.ofText?, create, checkId, defaultBaseUrl]
  by_cases colon : ':' ∈ accountId.toList
  next =>
    have held : accountId.toList.contains ':' = true := by simpa using colon
    rw [if_pos colon, if_pos held]
    rfl
  next =>
    have free : ¬ accountId.toList.contains ':' = true := by simpa using colon
    rw [if_neg colon, if_neg free]
    exact ⟨_, rfl⟩

end Delivery

namespace Settings

inductive ChannelKind where
  | email
  | sms
  | webhook
deriving DecidableEq, Repr

def ChannelKind.name : ChannelKind -> String
  | .email => "email"
  | .sms => "sms"
  | .webhook => "webhook"

def ChannelWarning.kind : ChannelWarning -> ChannelKind
  | .emailHost | .emailRecipients => .email
  | .smsCredentials | .smsRecipients => .sms
  | .webhookUrls => .webhook

def isOn (settings : Settings) : ChannelKind -> Bool
  | .email => settings.email.enabled
  | .sms => settings.sms.enabled
  | .webhook => settings.webhook.enabled

def isComplete (settings : Settings) : ChannelKind -> Bool
  | .email => isSet settings.email.host && !settings.email.recipients.isEmpty
  | .sms => settings.sms.hasCredentials && !settings.sms.recipients.isEmpty
  | .webhook => !settings.webhook.urls.isEmpty

def Warns (settings : Settings) (kind : ChannelKind) : Prop :=
  ∃ warning ∈ settings.channelWarnings, warning.kind = kind

/-- Text messages are on, but with the id of an account that no login can hold. -/
def Sms.IsUnusable (sms : Sms) : Prop :=
  sms.enabled = true ∧ sms.hasCredentials = true ∧
    ∃ accountId, sms.accountId = some accountId ∧ ':' ∈ accountId.toList

theorem mem_channelWarnings {settings : Settings} {warning : ChannelWarning} :
    warning ∈ settings.channelWarnings ↔
      settings.isOn warning.kind = true ∧
        match warning with
        | .emailHost => isSet settings.email.host = false
        | .emailRecipients => settings.email.recipients.isEmpty = true
        | .smsCredentials => settings.sms.hasCredentials = false
        | .smsRecipients => settings.sms.recipients.isEmpty = true
        | .webhookUrls => settings.webhook.urls.isEmpty = true := by
  cases warning <;> simp [channelWarnings, isOn, ChannelWarning.kind]

theorem warns_iff (settings : Settings) (kind : ChannelKind) :
    settings.Warns kind ↔ settings.isOn kind = true ∧ settings.isComplete kind = false := by
  constructor
  next =>
    rintro ⟨warning, member, rfl⟩
    obtain ⟨isOn, lacking⟩ := mem_channelWarnings.mp member
    refine ⟨isOn, ?_⟩
    cases warning <;> simp_all [isComplete, ChannelWarning.kind]
  next =>
    rintro ⟨isOn, incomplete⟩
    cases kind with
    | email =>
      cases host : isSet settings.email.host with
      | false => exact ⟨.emailHost, mem_channelWarnings.mpr ⟨isOn, host⟩, rfl⟩
      | true =>
        refine ⟨.emailRecipients, mem_channelWarnings.mpr ⟨isOn, ?_⟩, rfl⟩
        simpa [isComplete, host] using incomplete
    | sms =>
      cases credentials : settings.sms.hasCredentials with
      | false => exact ⟨.smsCredentials, mem_channelWarnings.mpr ⟨isOn, credentials⟩, rfl⟩
      | true =>
        refine ⟨.smsRecipients, mem_channelWarnings.mpr ⟨isOn, ?_⟩, rfl⟩
        simpa [isComplete, credentials] using incomplete
    | webhook =>
      refine ⟨.webhookUrls, mem_channelWarnings.mpr ⟨isOn, ?_⟩, rfl⟩
      simpa [isComplete] using incomplete

theorem smsAccount_cases (settings : Settings) :
    (settings.sms.IsUnusable ∧ settings.smsAccount = .error .accountId) ∨
      (¬ settings.sms.IsUnusable ∧ ∃ account, settings.smsAccount = .ok account ∧
        account.isSome = (settings.sms.enabled && settings.sms.hasCredentials)) := by
  unfold smsAccount Sms.IsUnusable
  dsimp only
  cases wanted : settings.sms.enabled && settings.sms.hasCredentials with
  | false => exact .inr ⟨by simp_all, none, rfl, rfl⟩
  | true =>
    obtain ⟨enabled, credentials⟩ := Bool.and_eq_true_iff.mp wanted
    rw [if_pos rfl, and_iff_right enabled, and_iff_right credentials]
    simp only [Sms.hasCredentials, Bool.and_eq_true] at credentials
    obtain ⟨⟨hasId, hasToken⟩, -⟩ := credentials
    cases identified : settings.sms.accountId with
    | none => simp [isSet, identified] at hasId
    | some accountId =>
      cases token : settings.sms.authToken with
      | none => simp [isSet, token] at hasToken
      | some authToken =>
        have created := SmsAccount.create_texts accountId authToken
          (.ofText? settings.sms.phoneNumber)
        by_cases colon : ':' ∈ accountId.toList
        next =>
          rw [if_pos colon] at created
          refine .inl ⟨⟨accountId, rfl, colon⟩, ?_⟩
          rw [created]
        next =>
          rw [if_neg colon] at created
          obtain ⟨account, created⟩ := created
          refine .inr ⟨?_, some account, ?_, rfl⟩
          next => simpa using colon
          next => rw [created]

theorem accounts_cases (settings : Settings) :
    (settings.sms.IsUnusable ∧ settings.accounts = .error .accountId) ∨
      (¬ settings.sms.IsUnusable ∧ ∃ accounts, settings.accounts = .ok accounts ∧
        accounts.mail = settings.mailAccount? ∧ accounts.poster = settings.poster? ∧
        accounts.sms.isSome = (settings.sms.enabled && settings.sms.hasCredentials)) := by
  unfold accounts
  refine settings.smsAccount_cases.imp (fun failed => ⟨failed.1, ?_⟩) fun made => ⟨made.1, ?_⟩
  next =>
    rw [failed.2]
    rfl
  next =>
    obtain ⟨-, account, same, known⟩ := made
    rw [same]
    exact ⟨_, rfl, rfl, rfl, known⟩

theorem accounts_isOk (settings : Settings) :
    (∃ accounts, settings.accounts = .ok accounts) ↔ ¬ settings.sms.IsUnusable := by
  obtain ⟨unusable, failed⟩ | ⟨usable, accounts, made, -⟩ := settings.accounts_cases
  next => simp [failed, unusable]
  next => exact iff_of_true ⟨accounts, made⟩ usable

theorem channel_obeys {settings : Settings} {accounts : Accounts}
    (made : settings.accounts = .ok accounts) (network : Network) (kind : ChannelKind) :
    ∃ channel, Entries.get? (settings.channels accounts network) kind.name = some channel ∧
      channel.Obeys (settings.isOn kind = true ∧ settings.isComplete kind = true) := by
  obtain ⟨-, failed⟩ | ⟨-, same, madeToo, mail, poster, sms⟩ := settings.accounts_cases
  next => cases failed.symm.trans made
  next =>
    obtain rfl := Except.ok.inj (madeToo.symm.trans made)
    cases kind with
    | email =>
      refine ⟨_, rfl, (Channel.obeys_email _ _).of_iff ?_⟩
      rw [Option.isSome_map, mail, mailAccount?]
      simp [isOn, isComplete, and_assoc]
    | sms =>
      refine ⟨_, rfl, (Channel.obeys_sms _ _).of_iff ?_⟩
      rw [Option.isSome_map, sms]
      simp [isOn, isComplete, and_assoc]
    | webhook =>
      refine ⟨_, rfl, (Channel.obeys_webhook _ _ _).of_iff ?_⟩
      rw [Option.isSome_map, poster, poster?]
      simp [isOn, isComplete]

/-- Warnings and channels agree, if channels can be made at all. They cannot just if text messages
are on with an id that no login can hold, and no warning tells of that. -/
theorem channels_by_warnings (settings : Settings) (network : Network) :
    ((∃ accounts, settings.accounts = .ok accounts) ↔ ¬ settings.sms.IsUnusable) ∧
    ∀ accounts, settings.accounts = .ok accounts -> ∀ kind, ∃ channel,
      Entries.get? (settings.channels accounts network) kind.name = some channel ∧
      (settings.isOn kind = true -> (settings.Warns kind ↔ channel.Skips)) ∧
      (settings.isOn kind = false -> ¬ settings.Warns kind ∧ channel.Skips) ∧
      (settings.isOn kind = true -> ¬ settings.Warns kind -> channel.Serves) := by
  refine ⟨settings.accounts_isOk, fun accounts made kind => ?_⟩
  obtain ⟨channel, found, obeys⟩ := channel_obeys made network kind
  rw [warns_iff]
  refine ⟨channel, found, fun isOn => ?_, fun isOff => ?_, fun isOn unwarned => ?_⟩
  next => simp [obeys.skips_iff, isOn]
  next => simp [obeys.skips_iff, isOff]
  next => exact obeys.1 ⟨isOn, by simpa [isOn] using unwarned⟩

/-- Nothing warns of an account id with a colon, but no channel is made then, not even one that is
off. -/
theorem unwarned_colon :
    let data : Value := .mapping
      [("sms", .mapping [("enabled", .bool true), ("twilio_account_sid", .text "AC:1"),
        ("twilio_auth_token", .text "token"), ("twilio_phone_number", .text "+15550100"),
        ("recipients", .list [.text "+15550101"])]),
      ("webhook", .mapping [("enabled", .bool false)])]
    ∃ settings, ofValue data = .good settings ∧ settings.channelWarnings = [] ∧
      settings.isOn .webhook = false ∧ settings.accounts = .error .accountId :=
  ⟨_, rfl, rfl, rfl, rfl⟩

end Settings

end SensorAlerting
