import Octora.Library.FixedWindow

namespace Octora.Api.RateLimit
open FixedWindow

abbrev Text := List Char

structure RateLimiterOpts where
  windowMs : Int
  max : Nat

-- The bucket table, by client.
abbrev Buckets := Text → Option Bucket

def set (buckets : Buckets) (ip : Text) (bucket : Bucket) : Buckets :=
  fun other => if other = ip then some bucket else buckets other

inductive Decision where
  | admitted
  | tooManyRequests (retryAfterSec retryAfterMs : Int)
  deriving DecidableEq

-- `req.ip || "unknown"`
def clientIp (ip : Option Text) : Text :=
  match ip with
  | none => "unknown".toList
  | some ip => if ip = [] then "unknown".toList else ip

-- rate-limit.ts
def handler (opts : RateLimiterOpts) (buckets : Buckets) (ip : Text) (now : Int) : Buckets × Decision :=
  match buckets ip with
  | none => (set buckets ip ⟨1,now + opts.windowMs⟩,.admitted)
  | some bucket =>
    if bucket.resetAt ≤ now then (set buckets ip ⟨1,now + opts.windowMs⟩,.admitted)
    else if opts.max ≤ bucket.count then
      let retryAfterMs := bucket.resetAt - now
      let retryAfterSec := max 1 ((retryAfterMs + 999) / 1000)
      (buckets,.tooManyRequests retryAfterSec retryAfterMs)
    else (set buckets ip ⟨bucket.count + 1,bucket.resetAt⟩,.admitted)

-- The timer's pass over the table.
def collect (buckets : Buckets) (now : Int) : Buckets :=
  fun ip => (buckets ip).filter fun bucket => !decide (bucket.resetAt ≤ now)

inductive Event where
  | request (ip : Option Text) (now : Int)
  | gc (now : Int)

def Event.now : Event → Int
  | .request _ now => now
  | .gc now => now

def Event.isRequest : Event → Bool
  | .request _ _ => true
  | .gc _ => false

-- A request of this client, or the timer.
def Event.concerns (client : Text) : Event → Bool
  | .request ip _ => decide (clientIp ip = client)
  | .gc _ => true

structure Outcome where
  ip : Text
  now : Int
  decision : Decision
  deriving DecidableEq

def decisions (opts : RateLimiterOpts) : Buckets → List Event → List Outcome
  | _,[] => []
  | buckets,.request ip now :: rest =>
    ⟨clientIp ip,now,(handler opts buckets (clientIp ip) now).2⟩ ::
      decisions opts (handler opts buckets (clientIp ip) now).1 rest
  | buckets,.gc now :: rest => decisions opts (collect buckets now) rest

def fresh : Buckets := fun _ => none

section Buckets
variable {opts : RateLimiterOpts} {buckets others : Buckets} {ip : Text} {now : Int}

-- What the handler makes of one bucket.
def answer (opts : RateLimiterOpts) (bucket : Option Bucket) (now : Int) : Decision :=
  match bucket with
  | none => .admitted
  | some bucket =>
    if bucket.resetAt ≤ now then .admitted
    else if opts.max ≤ bucket.count then
      .tooManyRequests (max 1 ((bucket.resetAt - now + 999) / 1000)) (bucket.resetAt - now)
    else .admitted

theorem handler_answer : (handler opts buckets ip now).2 = answer opts (buckets ip) now := by
  unfold handler answer
  split
  · rfl
  · split
    · rfl
    · split <;> rfl

theorem handler_bucket (other : Text) : (handler opts buckets ip now).1 other =
    if other = ip then (grant opts.windowMs opts.max (buckets ip) now).1 else buckets other := by
  unfold handler grant
  cases bucket : buckets ip with
  | none => rfl
  | some window =>
    by_cases over_ : window.resetAt ≤ now
    · simp only [if_pos over_]
      rfl
    · by_cases full : opts.max ≤ window.count
      · simp only [if_neg over_,if_pos full]
        split
        · rename_i same
          rw [same,bucket]
        · rfl
      · simp only [if_neg over_,if_neg full]
        rfl

theorem answer_grant (bucket : Option Bucket) :
    decide (answer opts bucket now = .admitted) = (grant opts.windowMs opts.max bucket now).2 := by
  unfold answer grant
  cases bucket with
  | none => rfl
  | some window =>
    by_cases over_ : window.resetAt ≤ now
    · simp [over_]
    · by_cases full : opts.max ≤ window.count
      · simp [over_,full]
      · simp [over_,full]

-- A bucket that is over counts for nothing.
def live (now : Int) (bucket : Option Bucket) : Option Bucket := bucket.filter fun window => decide (now < window.resetAt)

theorem live_over {window : Bucket} (over_ : window.resetAt ≤ now) : live now (some window) = none := by
  have ended : ¬now < window.resetAt := Int.not_lt.mpr over_
  simp [live,Option.filter,ended]

theorem live_runs {window : Bucket} (runs : now < window.resetAt) : live now (some window) = some window := by
  simp [live,Option.filter,runs]

theorem live_later (later : now ≤ next) (bucket : Option Bucket) : live next (live now bucket) = live next bucket := by
  cases bucket with
  | none => rfl
  | some window =>
    rcases Int.lt_or_le now window.resetAt with runs | over_
    · rw [live_runs runs]
    · rw [live_over over_,live_over (Int.le_trans over_ later)]
      rfl

theorem answer_live (bucket : Option Bucket) : answer opts (live now bucket) now = answer opts bucket now := by
  cases bucket with
  | none => rfl
  | some window =>
    rcases Int.lt_or_le now window.resetAt with runs | over_
    · rw [live_runs runs]
    · rw [live_over over_]
      simp only [answer,if_pos over_]

theorem grant_live (bucket : Option Bucket) :
    (grant opts.windowMs opts.max (live now bucket) now).1 = (grant opts.windowMs opts.max bucket now).1 := by
  cases bucket with
  | none => rfl
  | some window =>
    rcases Int.lt_or_le now window.resetAt with runs | over_
    · rw [live_runs runs]
    · rw [live_over over_]
      simp only [grant,if_pos over_]

theorem live_collect (other : Text) : live now (collect buckets now other) = live now (buckets other) := by
  unfold collect
  cases buckets other with
  | none => rfl
  | some window =>
    rcases Int.lt_or_le now window.resetAt with runs | over_
    · have kept : ¬window.resetAt ≤ now := Int.not_le.mpr runs
      simp [Option.filter,kept]
    · rw [live_over over_]
      simp [Option.filter,over_,live]

end Buckets

-- Two tables that agree, for some of the clients, on every bucket that is not over.
def Agree (held : Text → Bool) (now : Int) (buckets others : Buckets) : Prop :=
  ∀ ip,held ip = true → live now (buckets ip) = live now (others ip)

section Transparency
variable {opts : RateLimiterOpts} {held : Text → Bool} {buckets others : Buckets} {now next : Int} {ip : Text}

theorem agree_later (agree : Agree held now buckets others) (later : now ≤ next) : Agree held next buckets others := by
  intro ip inside
  rw [← live_later later (buckets ip),agree ip inside,live_later later]

theorem agree_collect (agree : Agree held now buckets others) : Agree held now (collect buckets now) others := by
  intro ip inside
  rw [live_collect,agree ip inside]

theorem agree_symm (agree : Agree held now buckets others) : Agree held now others buckets :=
  fun ip inside => (agree ip inside).symm

theorem agree_handler (agree : Agree held now buckets others) :
    Agree held now (handler opts buckets ip now).1 (handler opts others ip now).1 := by
  intro other inside
  rw [handler_bucket,handler_bucket]
  by_cases same : other = ip
  · subst same
    rw [if_pos rfl,if_pos rfl,← grant_live,agree other inside,grant_live]
  · rw [if_neg same,if_neg same]
    exact agree other inside

-- A request of a client that is not looked at.
theorem agree_unheld (agree : Agree held now buckets others) (outside : held ip = false) :
    Agree held now (handler opts buckets ip now).1 others := by
  intro other inside
  rw [handler_bucket]
  by_cases same : other = ip
  · rw [same,outside] at inside
    cases inside
  · rw [if_neg same]
    exact agree other inside

theorem decision_agrees (agree : Agree held now buckets others) (inside : held ip = true) :
    (handler opts buckets ip now).2 = (handler opts others ip now).2 := by
  rw [handler_answer,handler_answer,← answer_live,agree ip inside,answer_live]

-- Passes of the timer and requests of other clients may go.
theorem decisions_kept (keep : Event → Bool)
    (keeps : ∀ ip now,held (clientIp ip) = true → keep (.request ip now) = true) (events : List Event)
    (ordered : (events.map Event.now).Pairwise (· ≤ ·)) (later : ∀ event ∈ events,now ≤ event.now)
    (agree : Agree held now buckets others) :
    (decisions opts buckets events).filter (fun outcome => held outcome.ip) =
      (decisions opts others (events.filter keep)).filter fun outcome => held outcome.ip := by
  induction events generalizing buckets others now with
  | nil => rfl
  | cons event events ih =>
    obtain ⟨first,rest⟩ := List.pairwise_cons.mp ordered
    have here := agree_later agree (later event List.mem_cons_self)
    have onward : ∀ other ∈ events,event.now ≤ other.now := fun other member => first _ (List.mem_map_of_mem member)
    cases event with
    | gc at_ =>
      rw [decisions]
      by_cases kept : keep (.gc at_) = true
      · rw [List.filter_cons_of_pos kept,decisions]
        exact ih rest onward (agree_collect (agree_symm (agree_collect (agree_symm here))))
      · rw [List.filter_cons_of_neg kept]
        exact ih rest onward (agree_collect here)
    | request client at_ =>
      rw [decisions]
      by_cases inside : held (clientIp client) = true
      · have same : (handler opts buckets (clientIp client) at_).2 = (handler opts others (clientIp client) at_).2 :=
          decision_agrees here inside
        rw [List.filter_cons_of_pos (keeps client at_ inside),decisions,same]
        simp only [List.filter_cons,inside,if_true]
        exact congrArg (_ :: ·) (ih rest onward (agree_handler here))
      · have outside : held (clientIp client) = false := Bool.eq_false_iff.mpr inside
        by_cases kept : keep (.request client at_) = true
        · rw [List.filter_cons_of_pos kept,decisions]
          simp only [List.filter_cons,outside,Bool.false_eq_true,if_false]
          exact ih rest onward (agree_handler here)
        · rw [List.filter_cons_of_neg kept]
          simp only [List.filter_cons,outside,Bool.false_eq_true,if_false]
          exact ih rest onward (agree_unheld here outside)

theorem fresh_kept (opts : RateLimiterOpts) (held : Text → Bool) (keep : Event → Bool)
    (keeps : ∀ ip now,held (clientIp ip) = true → keep (.request ip now) = true) {events : List Event}
    (ordered : (events.map Event.now).Pairwise (· ≤ ·)) :
    (decisions opts fresh events).filter (fun outcome => held outcome.ip) =
      (decisions opts fresh (events.filter keep)).filter fun outcome => held outcome.ip := by
  cases events with
  | nil => rfl
  | cons first rest =>
    have later : ∀ event ∈ first :: rest,first.now ≤ event.now := by
      intro event member
      rcases List.mem_cons.mp member with rfl | after
      · exact Int.le_refl _
      · exact (List.pairwise_cons.mp ordered).1 _ (List.mem_map_of_mem after)
    have agree : Agree held first.now fresh fresh := fun _ _ => rfl
    exact decisions_kept keep keeps _ ordered later agree

end Transparency

-- The requests of one client alone.
def Event.by (client : Text) : Event → Bool
  | .request ip _ => decide (clientIp ip = client)
  | .gc _ => false

def entry (outcome : Outcome) : Entry := ⟨outcome.now,decide (outcome.decision = .admitted)⟩

section Client
variable (opts : RateLimiterOpts) (client : Text)

theorem decisions_client (buckets : Buckets) (events : List Event) (concerned : ∀ event ∈ events,event.concerns client = true) :
    ∀ outcome ∈ decisions opts buckets events,outcome.ip = client := by
  induction events generalizing buckets with
  | nil => nofun
  | cons event events ih =>
    have here := concerned event List.mem_cons_self
    have rest := fun other member => concerned other (List.mem_cons_of_mem _ member)
    cases event with
    | gc now => exact ih _ rest
    | request ip now =>
      intro outcome member
      rcases List.mem_cons.mp member with rfl | later
      · exact of_decide_eq_true here
      · exact ih _ rest outcome later

-- One client's requests are served by its one counter.
theorem decisions_served (buckets : Buckets) (events : List Event) (own : ∀ event ∈ events,event.by client = true) :
    (decisions opts buckets events).map entry = serve opts.windowMs opts.max (buckets client) (events.map Event.now) := by
  induction events generalizing buckets with
  | nil => rfl
  | cons event events ih =>
    have here := own event List.mem_cons_self
    have rest := fun other member => own other (List.mem_cons_of_mem _ member)
    cases event with
    | gc now => cases here
    | request ip now =>
      have same : clientIp ip = client := of_decide_eq_true here
      rw [decisions,List.map_cons,ih _ rest,List.map_cons,serve,handler_bucket,same,if_pos rfl]
      simp only [entry,handler_answer,answer_grant,Event.now]

theorem client_served {events : List Event} (ordered : (events.map Event.now).Pairwise (· ≤ ·)) :
    ((decisions opts fresh events).filter fun outcome => decide (outcome.ip = client)).map entry =
      serve opts.windowMs opts.max none ((events.filter (Event.by client)).map Event.now) := by
  have own : ∀ event ∈ events.filter (Event.by client),event.by client = true := fun event member => (List.mem_filter.mp member).2
  have concerned : ∀ event ∈ events.filter (Event.by client),event.concerns client = true := by
    intro event member
    cases event with
    | gc now => rfl
    | request ip now => exact own _ member
  have alone : (decisions opts fresh (events.filter (Event.by client))).filter (fun outcome => decide (outcome.ip = client)) =
      decisions opts fresh (events.filter (Event.by client)) := by
    rw [List.filter_eq_self]
    intro outcome member
    exact decide_eq_true (decisions_client opts client fresh _ concerned outcome member)
  have kept := fresh_kept opts (fun ip => decide (ip = client)) (Event.by client) (fun _ _ inside => inside) ordered
  rw [kept,alone]
  exact decisions_served opts client fresh _ own

end Client

-- How the limiter should treat a sequence of requests and of passes of its timer.
structure Limited (opts : RateLimiterOpts) (events : List Event) : Prop where
  bounded : ∀ client low,(decisions opts fresh events).countP (fun outcome =>
    decide (outcome.ip = client ∧ outcome.decision = .admitted ∧ low ≤ outcome.now ∧ outcome.now < low + opts.windowMs)) ≤
      2 * opts.max
  refused : ∀ before outcome after,decisions opts fresh events = before ++ outcome :: after → outcome.decision ≠ .admitted →
    ∃ start,current opts.windowMs ((before.filter fun earlier => earlier.ip = outcome.ip).map Outcome.now) = some start ∧
      start ≤ outcome.now ∧ outcome.now < start + opts.windowMs ∧
      before.countP (fun earlier => decide (earlier.ip = outcome.ip ∧ earlier.decision = .admitted ∧ start ≤ earlier.now)) =
        opts.max
  apart : ∀ client,(decisions opts fresh events).filter (fun outcome => outcome.ip = client) =
    decisions opts fresh (events.filter (Event.concerns client))
  collected : decisions opts fresh (events.filter Event.isRequest) = decisions opts fresh events

theorem rate_limited (opts : RateLimiterOpts) (positive : 0 < opts.windowMs) (least : 1 ≤ opts.max) (events : List Event)
    (ordered : (events.map Event.now).Pairwise (· ≤ ·)) : Limited opts events := by
  have times : ∀ client,((events.filter (Event.by client)).map Event.now).Pairwise (· ≤ ·) := fun client =>
    ordered.sublist (List.filter_sublist.map _)
  refine ⟨?_,?_,?_,?_⟩
  · intro client low
    have bound := sliding_bound positive least (times client) low
    rw [← client_served opts client ordered,List.countP_map,List.countP_filter] at bound
    refine Nat.le_trans (Nat.le_of_eq (List.countP_congr fun outcome _ => ?_)) bound
    simp only [Function.comp_apply,Bool.and_eq_true,within_iff,entry,decide_eq_true_eq]
    tauto
  · intro before outcome after made denied
    have served := client_served opts outcome.ip ordered
    simp only [made,List.filter_append,List.filter_cons,decide_true,if_true,List.map_append,List.map_cons] at served
    obtain ⟨split,kept,chosen⟩ := serve_split opts.windowMs opts.max served.symm
    have asked : ((before.filter fun earlier => earlier.ip = outcome.ip).map entry).map Entry.time =
        (before.filter fun earlier => earlier.ip = outcome.ip).map Outcome.now := by
      rw [List.map_map]
      rfl
    have turned : (entry outcome).admitted = false := decide_eq_false denied
    rw [asked] at split kept chosen
    have before_ : ((before.filter fun earlier => earlier.ip = outcome.ip).map Outcome.now ++ [outcome.now]).Pairwise (· ≤ ·) := by
      refine (times outcome.ip).sublist ?_
      rw [split]
      exact List.Sublist.append_left (List.Sublist.cons_cons _ (List.nil_sublist _)) _
    obtain ⟨start,opened,begun,runs,full⟩ := refused_full positive least before_ (chosen.symm.trans turned)
    refine ⟨start,opened,begun,runs,?_⟩
    rw [kept,List.countP_map,List.countP_filter] at full
    rw [← full]
    apply List.countP_congr
    intro earlier _
    simp only [Function.comp_apply,Bool.and_eq_true,since_iff,entry,decide_eq_true_eq]
    tauto
  · intro client
    have concerned : ∀ event ∈ events.filter (Event.concerns client),event.concerns client = true :=
      fun event member => (List.mem_filter.mp member).2
    rw [fresh_kept opts (fun ip => decide (ip = client)) (Event.concerns client) (fun _ _ inside => inside) ordered,List.filter_eq_self]
    intro outcome member
    exact decide_eq_true (decisions_client opts client fresh _ concerned outcome member)
  · have kept := fresh_kept opts (fun _ => true) Event.isRequest (fun _ _ _ => rfl) ordered
    have whole : ∀ outcomes : List Outcome,outcomes.filter (fun _ => true) = outcomes := fun outcomes =>
      List.filter_eq_self.mpr fun _ _ => rfl
    rw [whole,whole] at kept
    exact kept.symm

-- Two requests in a window, the third refused until it is over.
theorem rate_limited_sample : Limited ⟨1000,2⟩
    [.request none 0,.request none 10,.gc 20,.request none 30,.request (some ['A']) 30,.gc 1000,.request none 1000] :=
  rate_limited ⟨1000,2⟩ (by decide) (by decide) _ (by decide)

end Octora.Api.RateLimit
