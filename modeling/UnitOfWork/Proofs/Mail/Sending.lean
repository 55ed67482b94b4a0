import Mathlib.Data.List.Induction
import UnitOfWork.Proofs.Mail.Bench

/-!
# Sending emails with one mailer

A mailer makes its transport when an email needs one and there is none, so sending takes one of
three courses (`Course`): the transport cannot be made, the email goes out over the transport that
there is, or over one that was just made. `play_faithful` puts together what that means for a run of
any length: at most one transport is made, no email is handed over twice, what counts as relayed is
what the server took, and every failure is told as one error with its cause.
-/

namespace UnitOfWork

/-- A failure of the mail protocol: the server gave a response code, or the error has a code for
such failures. -/
inductive Fault.TellsProtocol (f : Fault) : Prop where
  | response (name : Json) (code : Option Json) (n : Number) (message : Text)
      (h : f.info? = some ⟨.foreign name code (some (.num n)), message⟩)
  | code (code : Text) (hcode : f.textCode? = some code)
      (h : code ∈ (["EAUTH", "ECONNECTION", "EENVELOPE", "EMESSAGE", "EPROTOCOL", "ESOCKET", "ETIMEDOUT",
        "ETLS"] : List Text))

/-- A response code is found on a foreign error that has a number for one. -/
theorem Mailer.isSome_responseCode?_iff {f : Fault} :
    (responseCode? f).isSome = true
      ↔ ∃ name code n message, f.info? = some ⟨.foreign name code (some (.num n)), message⟩ := by
  unfold responseCode?
  constructor
  · intro h
    split at h
    next name code n message hinfo => exact ⟨name, code, n, message, hinfo⟩
    next => cases h
  · rintro ⟨name, code, n, message, hinfo⟩
    rw [hinfo]
    rfl

/-- Whether a fault tells of the protocol is computed as it is defined. -/
theorem Mailer.isProtocolFault_iff {f : Fault} : isProtocolFault f = true ↔ f.TellsProtocol := by
  rw [isProtocolFault, Bool.or_eq_true, isSome_responseCode?_iff]
  constructor
  · rintro (⟨name, code, n, message, h⟩ | h)
    · exact .response name code n message h
    · split at h
      next code hcode => exact .code code hcode (by simpa [protocolCodes] using h)
      next => cases h
  · rintro (⟨name, code, n, message, h⟩ | ⟨code, hcode, h⟩)
    · exact .inl ⟨name, code, n, message, h⟩
    · refine .inr ?_
      rw [hcode]
      simpa [protocolCodes] using h

namespace Mailing

/-! ## One email -/

/-- The courses that sending an email takes: whether there is a transport before, the calls that are
made, what it fails with, if it does, and whether there is a transport after. -/
inductive Course (options : TransportOptions) (email : Email) :
    Bool → List Call → Option Fault → Bool → Prop where
  | unconnected (f : Fault) : Course options email false [⟨.connect options, some f⟩] (some f) false
  | connected (f? : Option Fault) : Course options email true [⟨.relay email, f?⟩] f? true
  | connecting (f? : Option Fault) :
      Course options email false [⟨.connect options, none⟩, ⟨.relay email, f?⟩] f? true

namespace Course

variable {options : TransportOptions} {email : Email} {before after : Bool} {calls : List Call}
  {f? : Option Fault} (h : Course options email before calls f? after)

include h

/-- A course fails with the fault of its last request, if any. -/
theorem failures_eq : failures calls = f?.toList := by
  cases h with
  | unconnected f => rfl
  | connected f? => cases f? <;> rfl
  | connecting f? => cases f? <;> rfl

/-- A course that does not fail takes the mail. -/
theorem taken_eq : taken calls = f?.elim [email] fun _ => [] := by
  cases h with
  | unconnected f => rfl
  | connected f? => cases f? <;> rfl
  | connecting f? => cases f? <;> rfl

/-- A course hands over at most one mail. -/
theorem length_handed_le : (handed calls).length ≤ 1 := by
  cases h with
  | unconnected f => exact Nat.zero_le 1
  | connected f? => exact Nat.le_refl 1
  | connecting f? => exact Nat.le_refl 1

end Course

/-- How sending ends that failed, or did not. -/
def ended (f? : Option Fault) : Except Fault Unit :=
  Fault.toResult (f?.map Mailer.relayFault)

section

variable (w : Surroundings) (account : MailAccount) (email : Email)

/-- A refusal of a mail fails with the fault of the relay, and leaves a line in the log. -/
theorem run_refuse {f : Fault} (hf : f.isError = true) (b : Bench) :
    ∃ log, (w.desk.refuse email f).run w.serve b = (.error (Mailer.relayFault f), { b with log }) := by
  obtain ⟨message, hmessage⟩ := (Fault.sayable_of_isError hf).message
  obtain ⟨log, hlog⟩ := w.desk.journal.exists_run_write w.serve (w.dated b.calls) .error
    "Failed to relay notification email"
    (Journal.field "subject" email.subject
      ++ Journal.member "error" (.obj (Journal.field "message" message)))
  refine ⟨log, (Program.run_bind_of_ok (a := message) ?_ _).trans
    ((Program.run_bind_of_ok hlog _).trans rfl)⟩
  rw [Program.run_ofExcept, hmessage]

/-- A request is answered and noted. -/
theorem run_asking (request : Request) (b : Bench) :
    (Surroundings.asking request).run w.serve b
      = (Fault.toResult (w.fault? b.calls request),
        { b with calls := b.calls ++ [⟨request, w.fault? b.calls request⟩] }) := rfl

/-- A change of the mailbox changes nothing else. -/
theorem run_modify (f : Mailbox → Mailbox) (b : Bench) :
    (w.desk.mailbox.modify f : Program Requests Bench Unit).run w.serve b
      = (.ok (), { b with mailbox := f b.mailbox }) := rfl

/-- Getting an email out takes one of the courses. -/
theorem run_dispatch (b : Bench) :
    ∃ calls f? connected, Course account.transport email b.mailbox.connected calls f? connected
      ∧ (∀ f, f? = some f → f.isError = true)
      ∧ (w.desk.dispatch account email).run w.serve b = (Fault.toResult f?,
        { b with mailbox := { b.mailbox with connected }, calls := b.calls ++ calls }) := by
  have hload : (w.desk.mailbox.load : Program Requests Bench Mailbox).run w.serve b
    = (.ok b.mailbox, b) :=
    rfl
  rcases b with ⟨log, ⟨connected, relayed, logged⟩, calls⟩
  cases connected with
  | true =>
    refine ⟨_, w.fault? calls (.relay email), true, .connected _, w.isError calls (.relay email), ?_⟩
    exact (Program.run_bind_of_ok hload _).trans (run_asking w (.relay email) _)
  | false =>
    have hconnect := run_asking w (.connect account.transport) ⟨log, ⟨false, relayed, logged⟩, calls⟩
    cases hfault : w.fault? calls (.connect account.transport) with
    | some f =>
      rw [hfault] at hconnect
      refine ⟨_, some f, false, .unconnected f, fun g hg => ?_, ?_⟩
      · exact w.isError calls _ g (hfault.trans hg)
      · exact (Program.run_bind_of_ok hload _).trans (Program.run_bind_of_error hconnect _)
    | none =>
      rw [hfault] at hconnect
      let made : List Call := calls ++ [⟨.connect account.transport, none⟩]
      refine ⟨_, w.fault? made (.relay email), true, .connecting _, w.isError made (.relay email), ?_⟩
      refine (Program.run_bind_of_ok hload _).trans ((Program.run_bind_of_ok hconnect _).trans
        ((Program.run_bind_of_ok (run_modify w _ _) _).trans ((run_asking w (.relay email) _).trans ?_)))
      simp only [made, List.append_assoc, List.singleton_append]

/-- What sending an email comes to: it takes one of the courses, and what the server took is added
to the mailbox. -/
structure Sent (options : TransportOptions) (b : Bench) (s : Sending) (b' : Bench) : Prop where
  course : ∃ f?, s.outcome = ended f?
    ∧ Course options s.email b.mailbox.connected s.calls f? b'.mailbox.connected
  calls_eq : b'.calls = b.calls ++ s.calls
  relayed_eq : b'.mailbox.relayed = b.mailbox.relayed ++ taken s.calls
  relayed_now : s.relayed = b'.mailbox.relayed

/-- Sending logs a failure, and adds an email to the mailbox where there was none. -/
theorem run_send (b : Bench) :
    ∃ calls f? connected log, Course account.transport email b.mailbox.connected calls f? connected
      ∧ (w.desk.send (.smtp account) email).run w.serve b = (ended f?,
        { b with
          log
          mailbox := { b.mailbox with connected, relayed := b.mailbox.relayed ++ taken calls }
          calls := b.calls ++ calls }) := by
  obtain ⟨calls, f?, connected, hcourse, herror, hdispatch⟩ := run_dispatch w account email b
  cases f? with
  | none =>
    refine ⟨calls, none, connected, b.log, hcourse, ?_⟩
    rw [hcourse.taken_eq]
    exact (Program.run_bind_of_ok (Program.run_rescue_of_ok hdispatch _) _).trans (run_modify w _ _)
  | some f =>
    obtain ⟨log, hrefuse⟩ := run_refuse w email (herror f rfl)
      { b with mailbox := { b.mailbox with connected }, calls := b.calls ++ calls }
    refine ⟨calls, some f, connected, log, hcourse, ?_⟩
    rw [hcourse.taken_eq, Option.elim_some, List.append_nil]
    exact Program.run_bind_of_error ((Program.run_rescue_of_error hdispatch _).trans hrefuse) _

/-- Sending a mail sends that mail. -/
theorem sent_send (b : Bench) :
    (w.send account email b).1.email = email
      ∧ Sent account.transport b (w.send account email b).1 (w.send account email b).2 := by
  obtain ⟨calls, f?, connected, log, hcourse, hrun⟩ := run_send w account email b
  refine ⟨rfl, ?_⟩
  have hcalls : (w.send account email b).1.calls = calls := by
    rw [Surroundings.send, hrun]
    exact List.drop_left
  have hemail : (w.send account email b).1.email = email := rfl
  constructor
  · rw [hcalls, hemail, Surroundings.send, hrun]
    exact ⟨f?, rfl, hcourse⟩
  · rw [hcalls, Surroundings.send, hrun]
  · rw [hcalls, Surroundings.send, hrun]
  · rfl

end

/-! ## What a sending tells -/

/-- What a failure is told as: an error of the messenger, the message of which says whether the mail
protocol failed. -/
structure Refusal (f : Fault) (info : ErrorInfo) : Prop where
  class_eq : info.errorClass = .messenger
  name_eq : info.errorClass.name = .str "MessengerError"
  message_eq : info.message = "SMTP error sending notification email." ∧ f.TellsProtocol
    ∨ info.message = "Unknown error sending notification email." ∧ ¬ f.TellsProtocol

/-- How sending an email ends: the server took it, or one call failed, and that is told as one error
with what the call failed with as its cause. -/
inductive Sending.Ends (s : Sending) : Prop where
  | relayed (hfailures : failures s.calls = []) (htaken : taken s.calls = [s.email])
      (houtcome : s.outcome = .ok ())
  | failed (f : Fault) (info : ErrorInfo) (hfailures : failures s.calls = [f]) (htaken : taken s.calls = [])
      (houtcome : s.outcome = .error (.caused info f)) (hinfo : Refusal f info)

/-- The fault of a relay refuses the mail, and keeps what it came from. -/
theorem relayFault_cases (f : Fault) : ∃ info, Mailer.relayFault f = .caused info f ∧ Refusal f info := by
  unfold Mailer.relayFault
  split
  next h => exact ⟨_, rfl, rfl, rfl, .inl ⟨rfl, Mailer.isProtocolFault_iff.1 h⟩⟩
  next h => exact ⟨_, rfl, rfl, rfl, .inr ⟨rfl, fun htells => h (Mailer.isProtocolFault_iff.2 htells)⟩⟩

/-- A mail that was sent has come to an end as it may. -/
theorem Sent.ends {options : TransportOptions} {b b' : Bench} {s : Sending} (h : Sent options b s b') :
    s.Ends := by
  obtain ⟨f?, houtcome, hcourse⟩ := h.course
  cases f? with
  | none => exact .relayed hcourse.failures_eq hcourse.taken_eq houtcome
  | some f =>
    obtain ⟨info, hrelay, hinfo⟩ := relayFault_cases f
    refine .failed f info hcourse.failures_eq hcourse.taken_eq ?_ hinfo
    rw [houtcome, ← hrelay]
    rfl

/-! ## Any number of emails -/

/-- What a mailer knows of its transport is what its calls tell: the attempts to make one failed, up
to the one that made it. -/
def Transports (connected : Bool) (calls : List Call) : Prop :=
  ∃ faults : List Fault, attempts calls = faults.map some ++ if connected then [none] else []

/-- What a mailer knows after one more course is what the calls tell up to then. -/
theorem Transports.course {options : TransportOptions} {email : Email} {before after : Bool}
    {calls more : List Call} {f? : Option Fault} (h : Transports before calls)
    (hcourse : Course options email before more f? after) : Transports after (calls ++ more) := by
  obtain ⟨faults, h⟩ := h
  cases hcourse with
  | unconnected f =>
    refine ⟨faults ++ [f], ?_⟩
    rw [attempts_append, h]
    simp [attempts]
  | connected f? | connecting f? =>
    refine ⟨faults, ?_⟩
    rw [attempts_append, h]
    simp [attempts]

/-- What a run of a mailer keeps to. -/
structure Faithful (emails : List Email) (sendings : List Sending) (b : Bench) : Prop where
  emails_eq : sendings.map (·.email) = emails
  calls_eq : b.calls = sendings.flatMap (·.calls)
  transports : Transports b.mailbox.connected b.calls
  /-- No email is handed to the server more than once while it is sent. -/
  once : ∀ s ∈ sendings, (handed s.calls).length ≤ 1
  ends : ∀ s ∈ sendings, s.Ends
  relayed_eq : b.mailbox.relayed = taken b.calls
  /-- After each email the mailer has relayed what the server took up to then. -/
  relayed_at : ∀ earlier s later, sendings = earlier ++ s :: later →
    s.relayed = taken ((earlier ++ [s]).flatMap (·.calls))

/-- Before the first mail all is faithful. -/
theorem Faithful.start (log : Log) : Faithful [] [] { log } where
  emails_eq := rfl
  calls_eq := rfl
  transports := ⟨[], rfl⟩
  once := nofun
  ends := nofun
  relayed_eq := rfl
  relayed_at := by simp

/-- One more email keeps to it. -/
theorem Faithful.snoc {options : TransportOptions} {emails : List Email} {sendings : List Sending}
    {b b' : Bench} {s : Sending} (h : Faithful emails sendings b) (hs : Sent options b s b') :
    Faithful (emails ++ [s.email]) (sendings ++ [s]) b' := by
  obtain ⟨f?, -, hcourse⟩ := hs.course
  have hcalls : b'.calls = (sendings ++ [s]).flatMap (·.calls) := by
    rw [hs.calls_eq, h.calls_eq, List.flatMap_append, List.flatMap_singleton]
  have hrelayed : b'.mailbox.relayed = taken b'.calls := by
    rw [hs.relayed_eq, h.relayed_eq, hs.calls_eq, taken_append]
  exact
    { emails_eq := by rw [List.map_append, h.emails_eq, List.map_singleton]
      calls_eq := hcalls
      transports := hs.calls_eq ▸ h.transports.course hcourse
      once := List.forall_mem_append.2 ⟨h.once, List.forall_mem_singleton.2 hcourse.length_handed_le⟩
      ends := List.forall_mem_append.2 ⟨h.ends, List.forall_mem_singleton.2 hs.ends⟩
      relayed_eq := hrelayed
      relayed_at := fun earlier x later hx => by
        rcases List.eq_nil_or_concat later with rfl | ⟨later, y, rfl⟩
        · obtain ⟨rfl, rfl⟩ := List.append_singleton_inj.1 hx
          rw [hs.relayed_now, hrelayed, hcalls]
        · rw [List.concat_eq_append, ← List.cons_append, ← List.append_assoc] at hx
          exact h.relayed_at earlier x later (List.append_singleton_inj.1 hx).1 }

/-- One more mail is sent after the others. -/
theorem play_snoc (w : Surroundings) (account : MailAccount) (emails : List Email) (email : Email)
    (b : Bench) :
    w.play account (emails ++ [email]) b
      = ((w.play account emails b).1 ++ [(w.send account email (w.play account emails b).2).1],
        (w.send account email (w.play account emails b).2).2) := by
  induction emails generalizing b with
  | nil => rfl
  | cons first rest ih => simp only [List.cons_append, Surroundings.play, ih]

/-- Whatever a mailer that was not used before is to send, and whichever calls to its server fail
with errors: it makes at most one transport, and tries again only after it could not; it hands no
email over twice; what it has relayed is what the server took, in order; and a failure is told as
one error with its cause, which is called one of the mail protocol exactly if it is. -/
theorem play_faithful (w : Surroundings) (account : MailAccount) (log : Log) (emails : List Email) :
    Faithful emails (w.play account emails { log }).1 (w.play account emails { log }).2 := by
  induction emails using List.reverseRecOn with
  | nil => exact .start log
  | append_singleton emails email ih =>
    rw [play_snoc]
    obtain ⟨hemail, hsent⟩ := sent_send w account email (w.play account emails { log }).2
    exact hemail ▸ ih.snoc hsent

/-- The error of a host that is not found. It is none of the mail protocol. -/
def notFound : Fault :=
  .of (.foreign (.str "Error") (some (.str "ENOTFOUND")) none) "getaddrinfo ENOTFOUND"

/-- The error of a login that is refused. -/
def refusedLogin : Fault :=
  .of (.foreign (.str "Error") (some (.str "EAUTH")) (some (.num 535))) "Invalid login"

/-- Surroundings in which the host is not found at first, and the login is refused at first. -/
def stumbling : Surroundings where
  fault? calls
    | .connect _ => if attempts calls = [] then some notFound else none
    | .relay _ => if handed calls = [] then some refusedLogin else none
  isError calls request f h := by
    cases request with
    | connect options =>
      rw [Option.ite_none_right_eq_some] at h
      cases h.2
      rfl
    | relay email =>
      rw [Option.ite_none_right_eq_some] at h
      cases h.2
      rfl
  clock _ := .finite 0
  dated _ := by decide

/-- Of three emails to a server that is reached at the second and lets in at the third the last is
relayed. -/
theorem play_faithful_stumbling :
    let email (subject : Text) : Email := ⟨subject, "a@h", ["b@h"], "body"⟩
    let emails := [email "one", email "two", email "three"]
    let run := stumbling.play ⟨"h", "u", "p"⟩ emails {}
    Faithful emails run.1 run.2
      ∧ run.1.map (·.outcome)
        = [.error (.caused ⟨.messenger, "Unknown error sending notification email."⟩ notFound),
          .error (.caused ⟨.messenger, "SMTP error sending notification email."⟩ refusedLogin), .ok ()]
      ∧ attempts run.2.calls = [some notFound, none] ∧ run.2.mailbox.relayed = [email "three"] := by
  intro email emails run
  exact ⟨play_faithful stumbling ⟨"h", "u", "p"⟩ {} emails, rfl, rfl, rfl⟩

end Mailing

end UnitOfWork
