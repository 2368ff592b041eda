import SmartSurf.Wifi.Netlink

/-!
# The course of an exchange with the driver

`send_and_recv_msgs` receives until one of its callbacks has set `err` to zero
or a negative number.  Seen from outside it is simpler: the messages up to that
point are folded over the record, and the result is the first such value of
`err` at the end of an `nl_recvmsgs`.  If there is none, the function waits for
ever; a positive code from the driver does not end the wait.
-/

namespace SmartSurf.Wifi

/-- The value that the callbacks of one `nl_recvmsgs` leave in `err`, if they
set it. -/
def lastVerdict : List Callback → Option ℤ
  | [] => none
  | .valid _ :: rest => lastVerdict rest
  | .ack :: _ => some 0
  | .finish :: rest => (lastVerdict rest).or (some 0)
  | .error code :: rest => (lastVerdict rest).or (some code)

/-- The messages of one `nl_recvmsgs`. -/
def heard : List Callback → List NlMsg
  | [] => []
  | .valid msg :: rest => msg :: heard rest
  | .ack :: _ => []
  | .finish :: rest => heard rest
  | .error _ :: rest => heard rest

/-- The value that ends the wait. -/
def finalVerdict (received : List (List Callback)) : Option ℤ :=
  (received.filterMap lastVerdict).find? fun err => err ≤ 0

/-- The messages up to the end of the wait. -/
def heardUntil : List (List Callback) → List NlMsg
  | [] => []
  | callbacks :: rest =>
      heard callbacks ++
        if (lastVerdict callbacks).any fun err => err ≤ 0 then []
        else heardUntil rest

/-- The value that a message that is not sent, or not waited for, returns. -/
def preparation (cfg : Config) (E : Exchange) : Option ℤ :=
  if cfg.mtkTurnkeyWlan then
    if !E.nlmsgAlloc then some (-1)
    else if !E.nlaPut then some (-105)
    else if !E.nlCbClone then some (-12)
    else if E.nlSend < 0 then some E.nlSend
    else none
  else
    some 0

section

variable {α : Type} (handler : NlMsg → α → α)

/-- The record after some messages. -/
def handleAll (msgs : List NlMsg) (arg : α) : α :=
  msgs.foldl (fun arg msg => handler msg arg) arg

theorem deliver_eq (callbacks : List Callback) (arg : α) (err : ℤ) :
    deliver handler callbacks (arg, err) =
      (handleAll handler (heard callbacks) arg,
        (lastVerdict callbacks).getD err) := by
  induction callbacks generalizing arg err with
  | nil => rfl
  | cons callback rest ih =>
      cases callback with
      | valid msg => exact ih (handler msg arg) err
      | ack => rfl
      | finish =>
          rw [deliver, ih, heard, lastVerdict]
          cases lastVerdict rest with
          | none => rfl
          | some verdict => rfl
      | error code =>
          rw [deliver, ih, heard, lastVerdict]
          cases lastVerdict rest with
          | none => rfl
          | some verdict => rfl

theorem handleAll_append (msgs msgs' : List NlMsg) (arg : α) :
    handleAll handler (msgs ++ msgs') arg =
      handleAll handler msgs' (handleAll handler msgs arg) :=
  List.foldl_append

theorem receive_of_nonpos
    (received : List (List Callback)) (arg : α) {err : ℤ} (herr : err ≤ 0) :
    receive handler received (arg, err) = some (arg, err) := by
  have hstop : ¬ (arg, err).2 > 0 := Int.not_lt.mpr herr
  cases received with
  | nil => rw [receive, if_neg hstop]
  | cons callbacks rest => rw [receive, if_neg hstop]

/-- As long as `err` is positive, the loop looks for the final verdict. -/
theorem receive_eq
    (received : List (List Callback)) (arg : α) {err : ℤ} (herr : err > 0) :
    receive handler received (arg, err) =
      (finalVerdict received).map fun ret =>
        (handleAll handler (heardUntil received) arg, ret) := by
  induction received generalizing arg err with
  | nil => rw [receive, if_pos herr]; rfl
  | cons callbacks rest ih =>
      rw [receive, if_pos herr, deliver_eq]
      cases hverdict : lastVerdict callbacks with
      | none =>
          rw [Option.getD_none, ih _ herr, heardUntil, hverdict, Option.any_none,
            if_neg Bool.false_ne_true, finalVerdict, finalVerdict,
            List.filterMap_cons_none hverdict, handleAll_append]
      | some verdict =>
          rw [Option.getD_some]
          by_cases hends : verdict ≤ 0
          -- this value of `err` ends the loop before the next `nl_recvmsgs`
          · rw [receive_of_nonpos handler rest _ hends, heardUntil, hverdict,
              Option.any_some, if_pos (decide_eq_true hends), List.append_nil,
              finalVerdict, List.filterMap_cons_some hverdict,
              List.find?_cons_of_pos (by simpa using hends)]
            rfl
          · rw [ih _ (Int.not_le.mp hends), heardUntil, hverdict, Option.any_some,
              if_neg (by simpa using hends), finalVerdict, finalVerdict,
              List.filterMap_cons_some hverdict,
              List.find?_cons_of_neg (by simpa using hends), handleAll_append]

/-- `wpa_driver_nl80211_testmode` is the fold of its handler over the messages
up to the end of the wait, with the value that ends the wait, or with the
error of a preparatory call.  It waits for ever exactly if no verdict is zero
or negative. -/
theorem testmode_eq_fold (cfg : Config) (E : Exchange) (arg : α) :
    testmode handler cfg E arg =
      match preparation cfg E with
      | some ret => some (arg, ret)
      | none =>
          (finalVerdict E.received).map fun ret =>
            (handleAll handler (heardUntil E.received) arg, ret) := by
  rw [testmode, sendAndRecvMsgs, preparation]
  split_ifs
  · rfl
  · rfl
  · rfl
  · rfl
  · exact receive_eq handler E.received arg Int.one_pos
  · rfl

end

end SmartSurf.Wifi
