import HtoolSecurityTokens.Theory.Footprint
import HtoolSecurityTokens.Theory.Order
import HtoolSecurityTokens.Verify.Plans

/-!
# The order of a token query's events

Three facts of every call of every query, for every answer of the collaborators:

* the cleanup comes last: once a query has closed a stream it calls no collaborator and writes
  nothing (`tokenQueries_closesLast`). It is proved from the statements of each body and of its
  cleanup with the rules of `Theory/Footprint`, without running the paths;
* every `fwrite` goes to a stream that is open at that moment (`tokenQueries_writeOpen`), from
  the plan, which fixes the stream, and the cleanup coming last;
* a query that sends no command stopped at its first failed setup call
  (`tokenQueries_stoppedAt`), from the plan.
-/

namespace Htool

section
variable (L : Layout) (env : Env)

/-! ## The statements of a body record no `fclose` -/

theorem openSink_records (param var : String) :
    Records (fun e => e.isFclose = false) (openSink env param var) := by
  unfold openSink
  exact Records.bind (Records.htoolGetParamString env param fun _ => rfl) fun
    | some _ => Records.bind (Records.setFile _ _) fun _ =>
        Records.bind (Records.fopen env _ _ fun _ => rfl) fun _ =>
        Records.bind (Records.readFile _) fun _ => .ifThen _ .gotoCleanup
    | none => .ret _

theorem checkStatus_records (hothStatus : Int) :
    Records (fun e => e.isFclose = false) (checkStatus hothStatus) :=
  .ifThen _ (Records.bind (Records.setStatus _) fun _ => .gotoCleanup)

theorem htoolGetTokensInSetV2_records (setIdx : UInt32) (challenge : Bytes) :
    Records (fun e => e.isFclose = false) (htoolGetTokensInSetV2 L env setIdx challenge) := by
  unfold htoolGetTokensInSetV2
  exact Records.bind (Records.htoolExecSecurityV2SerializedCmd env _ fun _ => rfl) fun _ =>
    Records.bind (checkStatus_records _) fun _ =>
    Records.bind (Records.orCleanup _) fun _ =>
    Records.bind (Records.ifThen _ .gotoCleanup) fun _ =>
    Records.bind (Records.ifThen _ .gotoCleanup) fun _ =>
    Records.bind (Records.readSerializedParam _ _ _ _) fun _ =>
    Records.bind (Records.fwrite env _ _ fun _ _ => rfl) fun _ =>
    Records.bind (Records.readSerializedParam _ _ _ _) fun _ =>
    Records.bind (Records.fwrite env _ _ fun _ _ => rfl) fun _ =>
    Records.bind (Records.readSerializedParam _ _ _ _) fun _ =>
    Records.fwrite env _ _ fun _ _ => rfl

theorem htoolGetTokenSetCountV2_records (challenge : Bytes) :
    Records (fun e => e.isFclose = false) (htoolGetTokenSetCountV2 L env challenge) := by
  unfold htoolGetTokenSetCountV2
  exact Records.bind (Records.htoolExecSecurityV2Cmd env _ fun _ => rfl) fun _ =>
    Records.bind (checkStatus_records _) fun _ =>
    Records.bind (Records.fwrite env _ _ fun _ _ => rfl) fun _ =>
    Records.bind (Records.fwrite env _ _ fun _ _ => rfl) fun _ =>
    Records.fwrite env _ _ fun _ _ => rfl

theorem htoolGetTokenSetInfoV2_records (setIdx : UInt32) (challenge : Bytes) :
    Records (fun e => e.isFclose = false) (htoolGetTokenSetInfoV2 L env setIdx challenge) := by
  unfold htoolGetTokenSetInfoV2
  exact Records.bind (Records.htoolExecSecurityV2Cmd env _ fun _ => rfl) fun _ =>
    Records.bind (checkStatus_records _) fun _ => Records.fwrite env _ _ fun _ _ => rfl

/-! ## The cleanup comes last -/

/-- The cleanup of a query: `if (p) fclose(p);` for each sink, then `return status;`. -/
theorem cleanup_records (vars : List String) :
    Records (fun e => e.isFclose = true)
      (vars.foldr (fun var rest => closeIfOpen var >>= fun _ => rest) getStatus) := by
  induction vars with
  | nil => exact .getStatus
  | cons var vars ih => exact Records.bind (Records.closeIfOpen var fun _ => rfl) fun _ => ih

theorem htoolGetTokensInSet_closesLast : ClosesLast (call (htoolGetTokensInSet L env)).trace := by
  refine Records.call_seq (Records.cleanupLabel ?_) fun _ =>
    cleanup_records ["token_output_ptr", "boot_nonce_output_ptr", "signature_output_ptr"]
  exact Records.bind (Records.setStatus _) fun _ =>
    Records.bind (Records.htoolLibhothDevice env fun _ => rfl) fun _ =>
    Records.bind (Records.ifThen _ (.ret _)) fun _ =>
    Records.bind (openSink_records env _ _) fun _ =>
    Records.bind (openSink_records env _ _) fun _ =>
    Records.bind (openSink_records env _ _) fun _ =>
    Records.bind (Records.getRandChallengeNonce env L fun _ => rfl) fun
      | some _ => Records.bind (Records.htoolGetParamU32 env _ fun _ => rfl) fun
        | some _ => Records.bind (Records.htoolGetSecurityVersion env fun _ => rfl) fun _ =>
            Records.bind (.switchVersion _ (htoolGetTokensInSetV2_records L env _ _) (.ret _))
              fun _ => .setStatus _
        | none => .gotoCleanup
      | none => .gotoCleanup

theorem htoolGetTokenSetCount_closesLast : ClosesLast (call (htoolGetTokenSetCount L env)).trace := by
  refine Records.call_seq (Records.cleanupLabel ?_) fun _ =>
    cleanup_records ["num_ids_ptr", "boot_nonce_ptr", "signature_ptr"]
  exact Records.bind (Records.setStatus _) fun _ =>
    Records.bind (Records.htoolLibhothDevice env fun _ => rfl) fun _ =>
    Records.bind (Records.ifThen _ (.ret _)) fun _ =>
    Records.bind (openSink_records env _ _) fun _ =>
    Records.bind (openSink_records env _ _) fun _ =>
    Records.bind (openSink_records env _ _) fun _ =>
    Records.bind (Records.getRandChallengeNonce env L fun _ => rfl) fun
      | some _ => Records.bind (Records.htoolGetSecurityVersion env fun _ => rfl) fun _ =>
          Records.bind (.switchVersion _ (htoolGetTokenSetCountV2_records L env _) (.ret _))
            fun _ => .setStatus _
      | none => .gotoCleanup

theorem htoolGetTokenSetInfo_closesLast : ClosesLast (call (htoolGetTokenSetInfo L env)).trace := by
  refine Records.call_seq (Records.cleanupLabel ?_) fun _ =>
    cleanup_records ["token_set_info_file_ptr"]
  exact Records.bind (Records.setStatus _) fun _ =>
    Records.bind (Records.htoolLibhothDevice env fun _ => rfl) fun _ =>
    Records.bind (Records.ifThen _ (.ret _)) fun _ =>
    Records.bind (Records.htoolGetParamU32 env _ fun _ => rfl) fun
      | some _ => Records.bind (Records.getRandChallengeNonce env L fun _ => rfl) fun
        | some _ => Records.bind (openSink_records env _ _) fun _ =>
            Records.bind (Records.htoolGetSecurityVersion env fun _ => rfl) fun _ =>
            Records.bind (.switchVersion _ (htoolGetTokenSetInfoV2_records L env _ _) (.ret _))
              fun _ => .setStatus _
        | none => .gotoCleanup
      | none => .gotoCleanup

theorem closesLast_of_mem_tokenQueries {q : Plan × Run} (hq : q ∈ tokenQueries L env) :
    ClosesLast q.2.trace := by
  simp only [tokenQueries, List.mem_cons, List.mem_singleton, List.not_mem_nil, or_false] at hq
  rcases hq with rfl | rfl | rfl
  exacts [htoolGetTokensInSet_closesLast L env, htoolGetTokenSetCount_closesLast L env,
    htoolGetTokenSetInfo_closesLast L env]

/-! ## The three queries -/

/-- Once a query has closed a stream it calls no collaborator and writes nothing: its cleanup
comes after every other event. -/
theorem tokenQueries_closesLast : (tokenQueries L env).Forall fun q => ClosesLast q.2.trace :=
  List.forall_iff_forall_mem.2 fun _ hq => closesLast_of_mem_tokenQueries L env hq

/-- Every `fwrite` of a query goes to a stream that is open at that moment: the query opened it
before the write and has not closed it since. -/
theorem tokenQueries_writeOpen : (tokenQueries L env).Forall fun q =>
    ∀ a f data n b, q.2.trace = a ++ .fwrite f data n :: b → Opened a f ∧ Event.fclose f ∉ a :=
  List.forall_iff_forall_mem.2 fun _ hq _ f _ _ _ ht =>
    ⟨Plan.opened_of_write (tokenQueries_accepted L env _ hq) ht, fun hc => by
      simpa [Event.isFclose] using
        (closesLast_of_mem_tokenQueries L env hq).not_fclose_before ht rfl _ hc⟩

/-- A query that sends no command stopped at its first failed setup call: before it, the setup
calls of its plan in order, each succeeding; after it, only `fclose`s. -/
theorem tokenQueries_stoppedAt : (tokenQueries L env).Forall fun q =>
    (∀ e ∈ q.2.trace, e.isCommand = false) → q.1.StoppedAt q.2.trace :=
  List.forall_iff_forall_mem.2 fun _ hq => Plan.stoppedAt_of_accepts (tokenQueries_accepted L env _ hq)

end

end Htool
