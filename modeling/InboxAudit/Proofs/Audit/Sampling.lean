import InboxAudit.Audit.Rehearsal
import InboxAudit.Proofs.Audit.Transcript

/-!
# Complete sampling

Which requests an audit makes of a mailbox that answers them all. The expected requests are read
off the pages of the listing: leave and the page, then leave and the metadata for every identifier
of the page, then the same for the page that its token names. The audit makes just these requests,
and its sample is the metadata in the order of the requests.
-/

namespace InboxAudit.Audit
set_option autoImplicit false

open InboxAudit.Analysis (Findings)
open InboxAudit.Mail (LabelCatalog ListPage Message MessageId)

variable {σ : Type}

/-- The pages of a whole listing: every page but the last one names the page after it. -/
inductive IsListing : List ListPage → Prop where
  | last {page : ListPage} (final : page.next = "") : IsListing [page]
  | more {page : ListPage} {rest : List ListPage} (named : page.next ≠ "")
      (further : IsListing rest) : IsListing (page :: rest)

namespace Plan

/-- The requests that fetch messages one after the other, each behind its own leave. -/
def fetches (plan : Plan) (ids : List MessageId) : List Request :=
  ids.flatMap fun id => [.leave "rate limit metadata", .metadata id plan.options.headers]

/-- The requests that go through pages of the listing, the first of them under the given token,
every other one under the token of the page before it. -/
def listing (plan : Plan) : String → List ListPage → List Request
  | _, [] => []
  | token, page :: rest =>
    .leave "rate limit messages" ::
      .page plan.options.window.query token plan.options.pageSize ::
        (plan.fetches page.ids ++ plan.listing page.next rest)

/-- The requests that gather the labels and the sample. -/
def sampling (plan : Plan) (pages : List ListPage) : List Request :=
  .labels :: plan.listing "" pages

end Plan

/-- The message whose metadata is asked for, if that is what is asked for. -/
def Request.messageId? : Request → Option MessageId
  | .metadata id _ => some id
  | _ => none

/-- More messages in the sample. -/
def Gathered.add (g : Gathered) (messages : List Message) : Gathered :=
  { g with sample := g.sample ++ messages }

@[simp] theorem Gathered.add_nil (g : Gathered) : g.add [] = g := by
  simp [Gathered.add]

theorem Gathered.add_append (g : Gathered) (messages more : List Message) :
    g.add (messages ++ more) = (g.add messages).add more := by
  rw [Gathered.add, Gathered.add, Gathered.add, Gathered.mk.injEq]
  exact ⟨rfl, Array.toList_inj.1 (by simp)⟩

section

variable {plan : Plan} {transcript : List Exchange}

/-- A message of the current page is fetched. -/
theorem Leads.fetch {g : Gathered} {id : MessageId} {ids : List MessageId} {next : String}
    {last : Next} {leave : Unit} {message : Message}
    (further : Leads plan (plan.afterMessages (g.add [message]) ids next) transcript last) :
    Leads plan (plan.afterMessages g (id :: ids) next)
      (⟨.leave "rate limit metadata", .answered leave⟩ ::
        ⟨.metadata id plan.options.headers, .answered message⟩ :: transcript) last := by
  have fetched := @Leads.answer plan (.message g id ids next) last transcript message further
  exact @Leads.answer plan (.messageLeave g id ids next) last _ leave fetched

/-- A page is listed. -/
theorem Leads.list {g : Gathered} {token : String} {last : Next} {leave : Unit} {page : ListPage}
    (further : Leads plan (plan.afterMessages g page.ids page.next) transcript last) :
    Leads plan (.ask (.pageLeave g token))
      (⟨.leave "rate limit messages", .answered leave⟩ ::
        ⟨.page plan.options.window.query token plan.options.pageSize, .answered page⟩ ::
          transcript) last := by
  have listed := @Leads.answer plan (.page g token) last transcript page further
  exact @Leads.answer plan (.pageLeave g token) last _ leave listed

/-- The answers to the requests for messages put their metadata into the sample, in order. -/
theorem leads_fetches (ids : List MessageId) (g : Gathered) (next : String)
    (answered : AllAnswered transcript)
    (asked : transcript.map Exchange.request = plan.fetches ids) :
    Leads plan (plan.afterMessages g ids next) transcript
      (plan.afterMessages (g.add (transcript.filterMap Exchange.message?)) [] next) := by
  induction ids generalizing g transcript with
  | nil =>
    obtain rfl := List.map_eq_nil_iff.1 asked
    rw [List.filterMap_nil, Gathered.add_nil]
    exact .here _
  | cons id ids ih =>
    rw [Plan.fetches, List.flatMap_cons, List.cons_append, List.cons_append, List.nil_append] at asked
    obtain ⟨leave, heard, rfl, answered, asked⟩ := answered.uncons asked
    obtain ⟨message, later, rfl, answered, asked⟩ := answered.uncons asked
    have further := ih (g.add [message]) answered asked
    rw [← Gathered.add_append] at further
    exact further.fetch

theorem filterMap_page?_fetches {ids : List MessageId}
    (asked : transcript.map Exchange.request = plan.fetches ids) :
    transcript.filterMap Exchange.page? = [] := by
  rw [List.filterMap_eq_nil_iff]
  rintro ⟨request, reply⟩ mem
  have fetched : request ∈ plan.fetches ids := by
    rw [← asked]
    exact List.mem_map_of_mem mem
  obtain ⟨id, -, either⟩ := List.mem_flatMap.1 fetched
  simp only [List.mem_cons, List.not_mem_nil, or_false] at either
  obtain rfl | rfl := either
  · rfl
  · rfl

/-- The answers to the requests for a page and its messages take an audit to the end of the page. -/
theorem leads_page {page : ListPage} {rest : List ListPage} {more : List Request} (g : Gathered)
    (token : String) (answered : AllAnswered transcript)
    (asked : transcript.map Exchange.request =
      .leave "rate limit messages" ::
        .page plan.options.window.query token plan.options.pageSize ::
          (plan.fetches page.ids ++ more))
    (listed : transcript.filterMap Exchange.page? = page :: rest) :
    ∃ later, AllAnswered later ∧ later.map Exchange.request = more ∧
      later.filterMap Exchange.page? = rest ∧
      ∃ messages, transcript.filterMap Exchange.message? =
          messages ++ later.filterMap Exchange.message? ∧
        ∀ last, Leads plan (plan.afterMessages (g.add messages) [] page.next) later last →
          Leads plan (.ask (.pageLeave g token)) transcript last := by
  obtain ⟨leave, heard, rfl, answered, asked⟩ := answered.uncons asked
  obtain ⟨handed, heard, rfl, answered, asked⟩ := answered.uncons asked
  obtain ⟨fetching, later, rfl, fetched, remaining⟩ := List.map_eq_append_iff.1 asked
  obtain ⟨fetchingAnswered, laterAnswered⟩ := List.forall_mem_append.1 answered
  have pages : handed :: later.filterMap Exchange.page? = page :: rest := by
    rw [← listed, ← List.nil_append (later.filterMap _), ← filterMap_page?_fetches fetched,
      ← List.filterMap_append]
    rfl
  obtain ⟨rfl, unlisted⟩ := List.cons.inj pages
  refine ⟨later, laterAnswered, remaining, unlisted, fetching.filterMap Exchange.message?, ?_, ?_⟩
  · exact List.filterMap_append
  · intro last further
    exact ((leads_fetches handed.ids g handed.next fetchingAnswered fetched).append further).list

/-- The answers to the requests for a whole listing take an audit to the end of its sample. -/
theorem leads_listing {pages : List ListPage} (whole : IsListing pages) (g : Gathered)
    (token : String) (answered : AllAnswered transcript)
    (asked : transcript.map Exchange.request = plan.listing token pages)
    (listed : transcript.filterMap Exchange.page? = pages) :
    Leads plan (.ask (.pageLeave g token)) transcript
      (plan.afterSample (g.add (transcript.filterMap Exchange.message?))) := by
  induction whole generalizing g token transcript with
  | @last page final =>
    obtain ⟨later, -, asked, -, messages, sampled, leads⟩ := leads_page g token answered asked listed
    obtain rfl := List.map_eq_nil_iff.1 asked
    apply leads
    rw [sampled, List.filterMap_nil, List.append_nil, Plan.afterMessages, if_pos final]
    exact .here _
  | @more page rest named _ ih =>
    obtain ⟨later, answered, asked, listed, messages, sampled, leads⟩ :=
      leads_page g token answered asked listed
    apply leads
    rw [sampled, Gathered.add_append, Plan.afterMessages, if_neg named]
    exact ih (g.add messages) page.next answered asked listed

theorem filterMap_messageId?_fetches (ids : List MessageId) :
    (plan.fetches ids).filterMap Request.messageId? = ids := by
  induction ids with
  | nil => rfl
  | cons id ids ih =>
    rw [Plan.fetches, List.flatMap_cons, List.filterMap_append]
    exact congrArg (id :: ·) ih

/-- The identifiers asked for are those of the pages, in their order. -/
theorem filterMap_messageId?_listing (token : String) (pages : List ListPage) :
    (plan.listing token pages).filterMap Request.messageId? = pages.flatMap ListPage.ids := by
  induction pages generalizing token with
  | nil => rfl
  | cons page rest ih =>
    rw [Plan.listing, List.filterMap_cons_none rfl, List.filterMap_cons_none rfl,
      List.filterMap_append, filterMap_messageId?_fetches, ih, List.flatMap_cons]

theorem Exchange.isSome_message? {e : Exchange} (answered : e.isAnswered = true) :
    e.message?.isSome = e.request.messageId?.isSome := by
  obtain ⟨request, reply⟩ := e
  cases reply with
  | answered answer => cases request <;> rfl
  | failed cause => cases answered
  | cancelled => cases answered

/-- Answers hand out one message for every identifier that is asked for. -/
theorem AllAnswered.length_messages (answered : AllAnswered transcript) :
    (transcript.filterMap Exchange.message?).length =
      ((transcript.map Exchange.request).filterMap Request.messageId?).length := by
  rw [List.length_filterMap_eq_countP, List.length_filterMap_eq_countP, List.countP_map]
  apply List.countP_congr
  intro e mem
  rw [Exchange.isSome_message? (answered e mem)]
  rfl

end

/-- A mailbox that answers every request of `Plan.sampling`, with the catalog and with the pages of
the listing. What it makes of any other requests is left open. -/
structure Serves (world : Surroundings (StateM σ)) (start : σ) (plan : Plan) (catalog : LabelCatalog)
    (pages : List ListPage) : Prop where
  whole : IsListing pages
  answered : AllAnswered (world.exchanges start (plan.sampling pages))
  labelled : (world.exchanges start (plan.sampling pages)).filterMap Exchange.catalog? = [catalog]
  listed : (world.exchanges start (plan.sampling pages)).filterMap Exchange.page? = pages

/-- The metadata that is handed out for the messages of the pages, in order. -/
def Surroundings.sample (world : Surroundings (StateM σ)) (start : σ) (plan : Plan)
    (pages : List ListPage) : List Message :=
  (world.exchanges start (plan.sampling pages)).filterMap Exchange.message?

namespace Serves

variable {world : Surroundings (StateM σ)} {start : σ} {plan : Plan} {catalog : LabelCatalog}
  {pages : List ListPage}

theorem length_sample (serves : Serves world start plan catalog pages) :
    (world.sample start plan pages).length = (pages.flatMap ListPage.ids).length := by
  rw [Surroundings.sample, serves.answered.length_messages, Surroundings.map_request_exchanges,
    Plan.sampling, List.filterMap_cons_none rfl, filterMap_messageId?_listing]

/-- What the mailbox hands out takes an audit to the end of its sample. -/
theorem leads (serves : Serves world start plan catalog pages) :
    Leads plan (.ask .labels) (world.exchanges start (plan.sampling pages))
      (plan.afterSample ⟨catalog, (world.sample start plan pages).toArray⟩) := by
  rw [Surroundings.sample]
  have asked := Surroundings.map_request_exchanges world start (plan.sampling pages)
  obtain ⟨whole, answered, labelled, listed⟩ := serves
  generalize world.exchanges start (plan.sampling pages) = transcript at *
  obtain ⟨handed, later, rfl, answered, asked⟩ := answered.uncons asked
  obtain rfl : handed = catalog := (List.cons.inj labelled).1
  have further := leads_listing whole ⟨handed, #[]⟩ "" answered asked listed
  have gathered : Gathered.add ⟨handed, #[]⟩ (later.filterMap Exchange.message?) =
      ⟨handed, (later.filterMap Exchange.message?).toArray⟩ := by
    simp [Gathered.add]
  rw [gathered] at further
  exact @Leads.answer plan .labels _ later handed further

end Serves

section

variable (plan : Plan) (world : Surroundings (StateM σ)) (limit : Nat) (s : σ) (g : Gathered)

/-- At the end of the sample the filters are the one thing left to ask for. -/
theorem outcomeFrom_afterSample :
    outcomeFrom plan world (limit + 1) s (plan.afterSample g) =
      if g.sample.isEmpty then ⟨[], some (.ok (plan.blankReport 0))⟩
      else if plan.hasFilters then
        ⟨[.filters], some (((world.reply .filters).run s).1.settle.map fun e =>
          plan.report g (Plan.findings g e))⟩
      else ⟨[], some (.ok (plan.report g Findings.empty))⟩ := by
  rw [Plan.afterSample]
  split
  · rfl
  split
  · cases settled : ((world.reply .filters).run s).1.settle with
    | error e => exact @outcomeFrom_of_error σ plan world s limit (.filters g) e settled
    | ok e => exact @outcomeFrom_of_answer σ plan world s limit (.filters g) e settled
  · rfl

/-- A report counts the messages of the sample, whatever becomes of the filters. -/
theorem total_of_afterSample {report : Report}
    (ends : (outcomeFrom plan world (limit + 1) s (plan.afterSample g)).result = some (.ok report)) :
    report.total = g.sample.size := by
  rw [outcomeFrom_afterSample] at ends
  split at ends
  · next empty =>
    obtain rfl := Except.ok.inj (Option.some.inj ends)
    rw [Array.isEmpty_iff_size_eq_zero.1 empty]
    rfl
  split at ends
  · cases settled : ((world.reply .filters).run s).1.settle with
    | error e =>
      rw [settled] at ends
      cases ends
    | ok e =>
      rw [settled] at ends
      obtain rfl := Except.ok.inj (Option.some.inj ends)
      rfl
  · obtain rfl := Except.ok.inj (Option.some.inj ends)
    rfl

end

theorem Options.exists_resolved {options : Options} (positive : options.window.isZero = false) :
    ∃ resolved, options.resolved = .ok resolved ∧ resolved.window = options.window := by
  rw [Options.resolved, positive]
  exact ⟨_, rfl, rfl⟩

/-- A run of a mailbox that answers every request comes to the end of its sample. -/
theorem Serves.run_eq {world : Surroundings (StateM σ)} {start : σ} {plan : Plan}
    {catalog : LabelCatalog} {pages : List ListPage} {options : Options} {limit : Nat}
    (serves : Serves world start plan catalog pages) (ready : options.resolved = .ok plan.options)
    (enough : (plan.sampling pages).length < limit) :
    ∃ spare, ((run world options plan.hasFilters plan.time limit).run start).1 =
      (outcomeFrom plan world (spare + 1) (world.stateAfter start (plan.sampling pages))
        (plan.afterSample ⟨catalog, (world.sample start plan pages).toArray⟩)).afterAll
          (plan.sampling pages) := by
  obtain ⟨spare, rfl⟩ : ∃ spare, limit = spare + 1 + (plan.sampling pages).length :=
    ⟨limit - (plan.sampling pages).length - 1, by omega⟩
  refine ⟨spare, ?_⟩
  rw [← outcomeFrom_of_leads (spare + 1) serves.leads, run, ready]
  rfl

/-- A mailbox that answers every request is asked for its labels, for every page of its listing and
for every message of a page, in order and each behind one leave; what it hands out is the sample of
the report. Only the filters are asked for after that, once, and not at all for an empty sample. -/
theorem run_samples_whole_listing (world : Surroundings (StateM σ)) (start : σ) (options : Options)
    (hasFilters : Bool) (time : Time.Instant) (positive : options.window.isZero = false) :
    ∃ resolved, options.resolved = .ok resolved ∧
      ∀ (catalog : LabelCatalog) (pages : List ListPage) (limit : Nat),
        let plan : Plan := ⟨resolved, hasFilters, time⟩
        let requests := plan.sampling pages
        let sample := world.sample start plan pages
        let gathered : Gathered := ⟨catalog, sample.toArray⟩
        let loaded := ((world.reply .filters).run (world.stateAfter start requests)).1
        let outcome := ((run world options hasFilters time limit).run start).1
        Serves world start plan catalog pages → requests.length < limit →
          sample.length = (pages.flatMap ListPage.ids).length ∧
          (sample = [] → outcome = ⟨requests, some (.ok
            ⟨time, options.window, 0, [], [], [], ⟨[], [], []⟩, ⟨[], [], []⟩⟩)⟩) ∧
          (sample ≠ [] → hasFilters = true → outcome = ⟨requests ++ [.filters], some
            (loaded.settle.map fun e => plan.report gathered (Plan.findings gathered e))⟩) ∧
          (sample ≠ [] → hasFilters = false → outcome = ⟨requests, some
            (.ok (plan.report gathered Findings.empty))⟩) ∧
          ∀ report, outcome.result = some (.ok report) → report.total = sample.length := by
  obtain ⟨resolved, ready, sameWindow⟩ := Options.exists_resolved positive
  refine ⟨resolved, ready, ?_⟩
  intro catalog pages limit plan requests sample gathered loaded outcome serves enough
  obtain ⟨spare, sampled⟩ : ∃ spare, outcome =
      (outcomeFrom plan world (spare + 1) (world.stateAfter start requests)
        (plan.afterSample gathered)).afterAll requests :=
    serves.run_eq ready enough
  have total : ∀ report, outcome.result = some (.ok report) → report.total = sample.length := by
    intro report ends
    rw [sampled] at ends
    exact total_of_afterSample plan world spare _ gathered ends
  rw [outcomeFrom_afterSample] at sampled
  have empty : sample = [] → outcome = ⟨requests, some (.ok
      ⟨time, options.window, 0, [], [], [], ⟨[], [], []⟩, ⟨[], [], []⟩⟩)⟩ := by
    intro nothing
    rw [sampled, if_pos (by simp [gathered, nothing]), ← sameWindow]
    exact congrArg (Outcome.mk · _) (List.append_nil _)
  have loads : sample ≠ [] → hasFilters = true → outcome = ⟨requests ++ [.filters], some
      (loaded.settle.map fun e => plan.report gathered (Plan.findings gathered e))⟩ := by
    intro something filters
    rw [sampled, if_neg (by simp [gathered, something]), if_pos filters]
    rfl
  have plain : sample ≠ [] → hasFilters = false → outcome = ⟨requests, some
      (.ok (plan.report gathered Findings.empty))⟩ := by
    intro something filters
    rw [sampled, if_neg (by simp [gathered, something]), if_neg (by simp [plan, filters])]
    exact congrArg (Outcome.mk · _) (List.append_nil _)
  exact ⟨serves.length_sample, empty, loads, plain, total⟩

/-- A mailbox of three pages behind a bucket of one token: the page in the middle is empty, and the
last one lists a message of the first one again. -/
def threePages : Script where
  labels := .ok .empty
  pages := [("", .ok ⟨["a", "b"], "p1"⟩), ("p1", .ok ⟨[], "p2"⟩), ("p2", .ok ⟨["a"], ""⟩)]
  messages := [("a", .ok ⟨"a", ["INBOX"], []⟩), ("b", .ok ⟨"b", [], []⟩)]
  filters := .ok ⟨[], []⟩
  pacing := .bucket 1
  cancelAt := none
  hangs := false

theorem run_samples_threePages :
    let world := threePages.surroundings
    let start := threePages.start false
    let plan : Plan := ⟨⟨.ofDays 7, 20, 500, Mail.defaultHeaders⟩, true, ⟨0, 0⟩⟩
    let pages : List ListPage := [⟨["a", "b"], "p1"⟩, ⟨[], "p2"⟩, ⟨["a"], ""⟩]
    let outcome := ((run world (.ofDays 7) true ⟨0, 0⟩ threePages.requestLimit).run start).1
    (Options.ofDays 7).window.isZero = false ∧ Serves world start plan .empty pages ∧
      (plan.sampling pages).length < threePages.requestLimit ∧
      outcome.requests = plan.sampling pages ++ [.filters] := by
  intro world start plan pages outcome
  have serves : Serves world start plan .empty pages := by
    refine ⟨.more (by decide) (.more (by decide) (.last rfl)), ?_, ?_, ?_⟩
    · decide +kernel
    · decide +kernel
    · decide +kernel
  have enough : (plan.sampling pages).length < threePages.requestLimit := by decide +kernel
  obtain ⟨resolved, ready, sampled⟩ :=
    run_samples_whole_listing world start (.ofDays 7) true ⟨0, 0⟩ rfl
  obtain rfl : plan.options = resolved := Except.ok.inj ready
  obtain ⟨-, -, loads, -⟩ := sampled .empty pages threePages.requestLimit serves enough
  have some : world.sample start plan pages ≠ [] := by decide +kernel
  exact ⟨rfl, serves, enough, congrArg Outcome.requests (loads some rfl)⟩

end InboxAudit.Audit
