import ModelVault.Client.Registry

/-!
What a client's request comes to when all messages fit: one question, whose answer is taken in as it is.
-/

namespace ModelVault

/-- A dialogue and what comes next, which nothing does when the dialogue is not answered to its end. -/
theorem Dialogue.run?_bind {Question : Type} {Reply : Question → Type} {α β σ : Type}
    (answer : (question : Question) → σ → Option (Reply question) × σ) (dialogue : Dialogue Question Reply α)
    (next : α → Dialogue Question Reply β) (state : σ) :
    (dialogue.bind next).run? answer state =
      match dialogue.run? answer state with
      | (some result, after) => (next result).run? answer after
      | (none, after) => (none, after) := by
  induction dialogue generalizing state with
  | done value => rfl
  | ask question answered ih =>
    rw [Dialogue.bind, Dialogue.run?, Dialogue.run?]
    rcases answer question state with ⟨none | reply, between⟩
    · rfl
    · exact ih reply between

theorem Dialogue.run?_bind_of_done {Question : Type} {Reply : Question → Type} {α β σ : Type}
    {answer : (question : Question) → σ → Option (Reply question) × σ} {dialogue : Dialogue Question Reply α}
    {next : α → Dialogue Question Reply β} {state after : σ} {result : α}
    (done : dialogue.run? answer state = (some result, after)) :
    (dialogue.bind next).run? answer state = (next result).run? answer after := by
  rw [Dialogue.run?_bind, done]

/-- Work that may fail is followed by what comes next, unless it does or is not answered to its end. -/
theorem Dialogue.run?_bind_eq {Question : Type} {Reply : Question → Type} {α β ε σ : Type}
    (answer : (question : Question) → σ → Option (Reply question) × σ) (first : ExceptT ε (Dialogue Question Reply) α)
    (next : α → ExceptT ε (Dialogue Question Reply) β) (state : σ) :
    (first >>= next).run.run? answer state =
      match first.run.run? answer state with
      | (some (.ok value), after) => (next value).run.run? answer after
      | (some (.error failure), after) => (some (.error failure), after)
      | (none, after) => (none, after) := by
  change (Dialogue.bind first.run (ExceptT.bindCont next)).run? answer state = _
  rw [Dialogue.run?_bind]
  rcases first.run.run? answer state with ⟨none | failure | value, after⟩ <;> rfl

namespace Client

open Wire (Message)

theorem maxMessageSize_le_maxFramedSize : maxMessageSize ≤ maxFramedSize := by
  decide

private theorem forM_checkSent {sizes : List Nat} (fit : ∀ octets ∈ sizes, octets ≤ maxMessageSize) :
    sizes.forM (checkSent maxMessageSize) = .ok () := by
  induction sizes with
  | nil => rfl
  | cons octets rest ih =>
    have first := fit octets (List.mem_cons_self ..)
    rw [List.forM, checkSent_fitting first (Nat.le_trans first maxMessageSize_le_maxFramedSize)]
    exact ih fun other member => fit other (List.mem_cons_of_mem _ member)

private theorem run_ask {request : Request} (fit : (sizes request).forM (checkSent maxMessageSize) = .ok ()) :
    (ask request).run = .ask request fun answer => .done (match answer >>= receive with
      | .ok reply => .ok reply
      | .error status => .error (.refused status)) := by
  rw [ask]
  simp only [fit]
  change Dialogue.ask request (fun answer => Dialogue.bind _ _) = _
  congr 1
  funext answer
  change ExceptT.run (match answer >>= receive with
    | .ok reply => pure reply
    | .error status => throw (ClientError.refused status) : Work Reply) = _
  cases answer >>= receive with
  | ok reply => rfl
  | error status => rfl

private theorem run_ask_bind {α : Type} {request : Request} (next : Reply → Work α)
    (fit : ∀ octets ∈ sizes request, octets ≤ maxMessageSize) :
    (ask request >>= next).run = .ask request fun answer =>
      match answer >>= receive with
      | .ok reply => (next reply).run
      | .error status => .done (.error (.refused status)) := by
  change Dialogue.bind (ask request).run (ExceptT.bindCont next) = _
  rw [run_ask (forM_checkSent fit), Dialogue.bind]
  congr 1
  funext answer
  cases answer >>= receive with
  | ok reply => rfl
  | error status => rfl

theorem run?_ask_bind {α σ : Type} {answer : Request → σ → Option Answer × σ} {request : Request}
    {state after : σ} {reply : Reply} (next : Reply → Work α)
    (fit : ∀ octets ∈ sizes request, octets ≤ maxMessageSize)
    (replied : answer request state = (some (.ok reply), after)) (received : receive reply = .ok reply) :
    (ask request >>= next).run.run? answer state = (next reply).run.run? answer after := by
  have taken : ((.ok reply : Answer) >>= receive) = .ok reply := received
  rw [run_ask_bind next fit, Dialogue.run?, replied]
  simp only [taken]

theorem run?_ask_bind_refused {α σ : Type} {answer : Request → σ → Option Answer × σ} {request : Request}
    {state after : σ} {reply : Reply} {status : Status} (next : Reply → Work α)
    (fit : ∀ octets ∈ sizes request, octets ≤ maxMessageSize)
    (replied : answer request state = (some (.ok reply), after)) (refused : receive reply = .error status) :
    (ask request >>= next).run.run? answer state = (some (.error (.refused status)), after) := by
  have taken : ((.ok reply : Answer) >>= receive) = .error status := refused
  rw [run_ask_bind next fit, Dialogue.run?, replied]
  simp only [taken, Dialogue.run?]

theorem run?_bind {α β σ : Type} {answer : Request → σ → Option Answer × σ} {first : Work α}
    (next : α → Work β) {state after : σ} {value : α}
    (done : first.run.run? answer state = (some (.ok value), after)) :
    (first >>= next).run.run? answer state = (next value).run.run? answer after := by
  change (Dialogue.bind first.run (ExceptT.bindCont next)).run? answer state = _
  rw [Dialogue.run?_bind_of_done done]
  rfl

theorem run?_bind_ok {α β σ : Type} {answer : Request → σ → Option Answer × σ} {first : Work α}
    {next : α → Work β} {state after : σ} {result : β}
    (done : (first >>= next).run.run? answer state = (some (.ok result), after)) :
    ∃ value between, first.run.run? answer state = (some (.ok value), between) ∧
      (next value).run.run? answer between = (some (.ok result), after) := by
  rw [Dialogue.run?_bind_eq] at done
  rcases began : first.run.run? answer state with ⟨none | failure | value, between⟩
  · simp [began] at done
  · simp [began] at done
  · rw [began] at done
    exact ⟨value, between, rfl, done⟩

theorem ends_of_read {α β ε σ : Type} {read : α → β} {outcome : Option (Except ε α) × σ} {seen : β}
    (known : (outcome.1.bind (·.toOption)).map read = some seen) :
    ∃ value after, outcome = (some (.ok value), after) ∧ read value = seen := by
  rcases outcome with ⟨none | failure | value, after⟩
  · cases known
  · cases known
  · exact ⟨value, after, rfl, Option.some.inj known⟩

private theorem forIn_checkReceived {limit : Nat} {pieces : List Bytes}
    (fit : ∀ piece ∈ pieces, Message.size (Wire.DownloadPart.mk piece) ≤ limit) :
    (forIn pieces PUnit.unit fun piece _ => do
      checkReceived limit (Message.size (Wire.DownloadPart.mk piece))
      pure (ForInStep.yield PUnit.unit)) = (.ok PUnit.unit : Except Status PUnit) := by
  induction pieces with
  | nil => rfl
  | cons piece rest ih =>
    rw [List.forIn_cons, checkReceived, if_pos (fit piece (List.mem_cons_self ..))]
    exact ih fun other member => fit other (List.mem_cons_of_mem _ member)

theorem receive_data {pieces : List Bytes}
    (fit : ∀ piece ∈ pieces, Message.size (Wire.DownloadPart.mk piece) ≤ maxMessageSize) :
    receive (.data pieces none) = .ok (.data pieces none) := by
  rw [receive, forIn_checkReceived fit]
  rfl

private theorem forIn_checkReceived_refused {limit : Nat} {pieces : List Bytes}
    (long : ∃ piece ∈ pieces, ¬Message.size (Wire.DownloadPart.mk piece) ≤ limit) :
    ∃ message, (forIn pieces PUnit.unit fun piece _ => do
      checkReceived limit (Message.size (Wire.DownloadPart.mk piece))
      pure (ForInStep.yield PUnit.unit)) = (.error ⟨.outOfRange, message⟩ : Except Status PUnit) := by
  induction pieces with
  | nil => simp at long
  | cons piece rest ih =>
    rw [List.forIn_cons, checkReceived]
    by_cases fits : Message.size (Wire.DownloadPart.mk piece) ≤ limit
    · obtain ⟨other, member, long⟩ := long
      rcases List.mem_cons.mp member with rfl | later
      · exact absurd fits long
      · rw [if_pos fits]
        exact ih ⟨other, later, long⟩
    · rw [if_neg fits]
      exact ⟨_, rfl⟩

theorem receive_data_refused (pieces : List Bytes) (failure : Option Status)
    (long : (∃ piece ∈ pieces, ¬Message.size (Wire.DownloadPart.mk piece) ≤ maxMessageSize) ∨ failure ≠ none) :
    ∃ status, receive (.data pieces failure) = .error status ∧
      (status.code = .outOfRange ∨ failure = some status) := by
  by_cases fit : ∀ piece ∈ pieces, Message.size (Wire.DownloadPart.mk piece) ≤ maxMessageSize
  · rcases long with ⟨piece, member, long⟩ | broken
    · exact absurd (fit piece member) long
    · obtain ⟨status, rfl⟩ := Option.ne_none_iff_exists'.mp broken
      refine ⟨status, ?_, .inr rfl⟩
      rw [receive, forIn_checkReceived fit]
      rfl
  · simp only [Classical.not_forall, exists_prop] at fit
    obtain ⟨message, refused⟩ := forIn_checkReceived_refused fit
    refine ⟨⟨.outOfRange, message⟩, ?_, .inl rfl⟩
    cases failure <;> rw [receive, refused] <;> rfl

theorem receive_uploaded {message : Wire.UploadReply} (fit : Message.size message ≤ maxMessageSize) :
    receive (.uploaded message) = .ok (.uploaded message) := by
  rw [receive, checkReceived, if_pos fit]
  rfl

theorem receive_models {message : Wire.ModelsReply} (fit : Message.size message ≤ maxMessageSize) :
    receive (.models message) = .ok (.models message) := by
  rw [receive, checkReceived, if_pos fit]
  rfl

theorem receive_versions {message : Wire.VersionsReply} (fit : Message.size message ≤ maxMessageSize) :
    receive (.versions message) = .ok (.versions message) := by
  rw [receive, checkReceived, if_pos fit]
  rfl

private theorem ok_of_checked {check : Except Status Unit} {taken : Except Status Reply} {reply : Reply}
    (both : (check >>= fun _ => taken) = .ok reply) : taken = .ok reply := by
  cases check with
  | error status => cases both
  | ok fit => exact both

theorem failure_of_received {pieces : List Bytes} {failure : Option Status} {reply : Reply}
    (received : receive (.data pieces failure) = .ok reply) : failure = none := by
  have ended := ok_of_checked received
  cases failure with
  | none => rfl
  | some status => cases ended

theorem receive_eq_ok {sent reply : Reply} (received : receive sent = .ok reply) : sent = reply := by
  cases sent with
  | done => exact Except.ok.inj received
  | models message => exact Except.ok.inj (ok_of_checked received)
  | uploaded message => exact Except.ok.inj (ok_of_checked received)
  | versions message => exact Except.ok.inj (ok_of_checked received)
  | data pieces failure =>
    have ended := ok_of_checked received
    cases failure with
    | some status => cases ended
    | none => exact Except.ok.inj ended

section Ended

variable {σ : Type} {answer : Request → σ → Option Answer × σ} {request : Request} {state after : σ}

/-- A request that ends well was answered with its reply, which could be taken in. -/
theorem received_of_ask {reply : Reply} (done : (ask request).run.run? answer state = (some (.ok reply), after)) :
    answer request state = (some (.ok reply), after) ∧ receive reply = .ok reply := by
  cases fits : (sizes request).forM (checkSent maxMessageSize) with
  | error status =>
    rw [ask, fits] at done
    cases done
  | ok fit =>
    rw [run_ask fits, Dialogue.run?] at done
    rcases replied : answer request state with ⟨none | told, later⟩
    · simp [replied] at done
    · rw [replied] at done
      cases received : told >>= receive with
      | error status => simp [received, Dialogue.run?] at done
      | ok came =>
        simp only [received, Dialogue.run?, Prod.mk.injEq, Option.some.injEq, Except.ok.injEq] at done
        obtain ⟨rfl, rfl⟩ := done
        cases told with
        | error status => cases received
        | ok sent =>
          obtain rfl := receive_eq_ok received
          exact ⟨rfl, received⟩

theorem answered_of_ask {reply : Reply} (done : (ask request).run.run? answer state = (some (.ok reply), after)) :
    answer request state = (some (.ok reply), after) :=
  (received_of_ask done).1

theorem refused_of_ask {failure : ClientError}
    (done : (ask request).run.run? answer state = (some (.error failure), after)) :
    ∃ status, failure = .refused status := by
  cases fits : (sizes request).forM (checkSent maxMessageSize) with
  | error status =>
    rw [ask, fits] at done
    cases done
    exact ⟨status, rfl⟩
  | ok fit =>
    rw [run_ask fits, Dialogue.run?] at done
    rcases replied : answer request state with ⟨none | told, later⟩
    · simp [replied] at done
    · rw [replied] at done
      cases received : told >>= receive with
      | ok reply => simp [received, Dialogue.run?] at done
      | error status =>
        simp only [received, Dialogue.run?, Prod.mk.injEq, Option.some.injEq, Except.error.injEq] at done
        exact ⟨status, done.1.symm⟩

/-- Work that begins with a request fails because somebody refuses the request, or because of what is made of its
reply. -/
theorem failed_of_ask_bind {α : Type} {next : Reply → Work α} {failure : ClientError}
    (done : (ask request >>= next).run.run? answer state = (some (.error failure), after)) :
    (∃ status, failure = .refused status) ∨
      ∃ reply between, (next reply).run.run? answer between = (some (.error failure), after) := by
  rw [Dialogue.run?_bind_eq] at done
  rcases asked : (ask request).run.run? answer state with ⟨none | other | reply, between⟩
  · simp [asked] at done
  · rw [asked] at done
    cases done
    exact .inl (refused_of_ask asked)
  · rw [asked] at done
    exact .inr ⟨reply, between, done⟩

end Ended

end Client

end ModelVault
