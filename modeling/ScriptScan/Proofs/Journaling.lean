import Mathlib.Data.List.TakeWhile
import ScriptScan.Journal.Session

/-!
# ScriptScan.Proofs.Journaling

A journal against the requests that were made of it, and what arrives of it in a sink.

* `Sink.receives_write` — what arrives of a text is as much of its front as there is room
  for, and it is told when that is not all;
* `Sink.writeAll_eq_write`, `Portions.sendAll_eq_writeAll` — it is the same however the text
  comes in pieces and however a receiver divides what it is offered;
* `diagnostics_handle`, `diagnostics_after` — what one request adds to a journal, and what
  any number of them add up to;
* `journal_keeps_and_sends_all` — every reply to every request.
-/

namespace ScriptScan

/-! ## sinks -/

namespace Sink

variable {sink : Sink} {bytes xs ys : List UInt8}

@[simp] theorem bytesOf_empty : bytesOf "" = [] := by
  simp [bytesOf]

@[simp] theorem bytesOf_append (text other : String) :
    bytesOf (text ++ other) = bytesOf text ++ bytesOf other := by
  simp [bytesOf]

/-- A sink has room for bytes. -/
def Fits (sink : Sink) (bytes : List UInt8) : Prop :=
  ∀ room, sink.room = some room → bytes.length ≤ room

/-- The sink after it took bytes. -/
def took (sink : Sink) (bytes : List UInt8) : Sink :=
  { room := sink.room.map (· - bytes.length), written := sink.written ++ bytes }

@[simp] theorem took_nil (sink : Sink) : sink.took [] = sink := by
  obtain ⟨room, written⟩ := sink
  cases room <;> simp [took]

theorem write_of_fits (h : sink.Fits bytes) : sink.write bytes = (sink.took bytes, .ok ()) := by
  obtain ⟨room, written⟩ := sink
  cases room with
  | none => rfl
  | some room =>
      have hle := h room rfl
      simp [write, took, hle, List.take_of_length_le hle]

theorem fits_nil (sink : Sink) : sink.Fits [] := fun _ _ => Nat.zero_le _

/-- Bytes that fit are out of the way of those behind them. -/
theorem write_append_of_fits (h : sink.Fits xs) (ys : List UInt8) :
    sink.write (xs ++ ys) = (sink.took xs).write ys := by
  obtain ⟨room, written⟩ := sink
  cases room with
  | none => simp [write, took]
  | some room =>
      have hle := h room rfl
      have hfits : xs.length + ys.length ≤ room ↔ ys.length ≤ room - xs.length := by omega
      simp [write, took, List.take_append, List.take_of_length_le hle, hfits, Nat.sub_sub]

/-- Of bytes that do not fit nothing behind them arrives. -/
theorem write_append_of_not_fits (h : ¬ sink.Fits xs) (ys : List UInt8) :
    sink.write (xs ++ ys) = sink.write xs := by
  obtain ⟨room, written⟩ := sink
  cases room with
  | none => exact absurd (fun _ hroom => nomatch hroom) h
  | some room =>
      have hlt : room < xs.length := by
        by_contra hle
        exact h fun _ hroom => Option.some.inj hroom ▸ Nat.le_of_not_lt hle
      have hnone : room - (xs.length + ys.length) = room - xs.length := by omega
      have hlong : ¬ xs.length + ys.length ≤ room := by omega
      simp [write, List.take_append_of_le_length hlt.le, hnone, hlong, hlt]

/-- What does not fit is an error. -/
theorem write_snd_of_not_fits (h : ¬ sink.Fits bytes) :
    (sink.write bytes).2 = .error .writeZero := by
  obtain ⟨room, written⟩ := sink
  cases room with
  | none => exact absurd (by simp [Fits]) h
  | some room =>
      have hlong : ¬ bytes.length ≤ room := fun hle => h (by simpa [Fits] using hle)
      simp only [write, if_neg hlong]

/-- **Texts in a row are one text**: to send them one by one and to stop at the first that
does not fit is to send all of them at once. -/
theorem writeAll_eq_write (sink : Sink) (texts : List String) :
    sink.writeAll texts = sink.write (bytesOf (String.join texts)) := by
  induction texts generalizing sink with
  | nil => simp [writeAll, write_of_fits (fits_nil sink)]
  | cons text texts ih =>
      rw [String.join_cons, bytesOf_append, writeAll]
      by_cases hfits : sink.Fits (bytesOf text)
      · rw [write_of_fits hfits, write_append_of_fits hfits]
        exact ih _
      · have herror := write_snd_of_not_fits hfits
        rw [write_append_of_not_fits hfits]
        rcases hwrite : sink.write (bytesOf text) with ⟨after, result⟩
        rw [hwrite] at herror
        obtain rfl : result = .error .writeZero := herror
        rfl

/-- What arrives in a sink of the bytes that it is sent: all, if there is no bound, and else
as many of the first as there is room for.  It is an error if that is not all. -/
structure Receives (sink : Sink) (bytes : List UInt8) (after : Sink)
    (result : Except WriteError Unit) : Prop where
  unbounded : sink.room = none → after.written = sink.written ++ bytes ∧ result = .ok ()
  bounded : ∀ room, sink.room = some room →
    after.written = sink.written ++ bytes.take (min room bytes.length) ∧
      result = if room < bytes.length then .error .writeZero else .ok ()

theorem receives_write (sink : Sink) (bytes : List UInt8) :
    sink.Receives bytes (sink.write bytes).1 (sink.write bytes).2 := by
  obtain ⟨room, written⟩ := sink
  constructor
  · rintro rfl
    exact ⟨rfl, rfl⟩
  · rintro room rfl
    constructor
    · simp [write, List.take_eq_take_iff]
    · simp only [write, ← Nat.not_lt, ite_not]

end Sink

/-! ## receivers that take bytes in portions -/

/-- How a receiver divides what it is sent: of the bytes that it is offered it takes some of
the first, and none only if there are none or it has no room. -/
structure Portions where
  size : Sink → List UInt8 → Nat
  size_le (sink : Sink) (bytes : List UInt8) : size sink bytes ≤ bytes.length
  size_le_room (sink : Sink) (bytes : List UInt8) (room : Nat) :
    sink.room = some room → size sink bytes ≤ room
  size_pos (sink : Sink) (bytes : List UInt8) :
    bytes ≠ [] → sink.room ≠ some 0 → 0 < size sink bytes

namespace Portions

/-- The portions of a receiver that takes bytes one by one. -/
instance : Inhabited Portions where
  default :=
    { size := fun sink bytes => if sink.room = some 0 then 0 else min 1 bytes.length
      size_le := fun sink bytes => by split <;> omega
      size_le_room := fun sink bytes room hroom => by split <;> grind
      size_pos := fun sink bytes hbytes hroom => by
        have hpos := List.length_pos_iff.2 hbytes
        rw [if_neg hroom]
        omega }

open Sink

variable {portions : Portions} {sink : Sink} {bytes : List UInt8}

/-- Offers bytes, and what is left of them again, until nothing is left or nothing is
taken. -/
def send (portions : Portions) (sink : Sink) (bytes : List UInt8) :
    Sink × Except WriteError Unit :=
  if bytes = [] then
    (sink, .ok ())
  else if _ : portions.size sink bytes = 0 then
    (sink, .error .writeZero)
  else
    portions.send (sink.took (bytes.take (portions.size sink bytes)))
      (bytes.drop (portions.size sink bytes))
termination_by bytes.length
decreasing_by
  have hpos := List.length_pos_iff.2 ‹bytes ≠ []›
  rw [List.length_drop]
  omega

/-- Sends texts in portions, one after the other, up to the first that does not fit. -/
def sendAll (portions : Portions) (sink : Sink) : List String → Sink × Except WriteError Unit
  | [] => (sink, .ok ())
  | text :: texts =>
    match portions.send sink text.toUTF8.data.toList with
    | (after, .ok ()) => portions.sendAll after texts
    | (after, .error error) => (after, .error error)

theorem fits_take_size (portions : Portions) (sink : Sink) (bytes : List UInt8) :
    sink.Fits (bytes.take (portions.size sink bytes)) := fun room hroom =>
  (List.length_take_le _ _).trans (portions.size_le_room sink bytes room hroom)

/-- **Portions do not matter**: what arrives of bytes, and whether it is all, is settled by
the room alone. -/
theorem send_eq_write (portions : Portions) (sink : Sink) (bytes : List UInt8) :
    portions.send sink bytes = sink.write bytes := by
  fun_induction send portions sink bytes with
  | case1 sink => rw [write_of_fits (fits_nil sink), took_nil]
  | case2 sink bytes hne hzero =>
      -- nothing is taken although something is offered, so there is no room
      have hroom : sink.room = some 0 := by
        by_contra hroom
        exact absurd hzero (portions.size_pos sink bytes hne hroom).ne'
      obtain ⟨room, written⟩ := sink
      obtain rfl : room = some 0 := hroom
      simp [write, hne]
  | case3 sink bytes hne hpos ih =>
      rw [ih, ← write_append_of_fits (portions.fits_take_size sink bytes), List.take_append_drop]

theorem sendAll_eq_writeAll (portions : Portions) (sink : Sink) (texts : List String) :
    portions.sendAll sink texts = sink.writeAll texts := by
  induction texts generalizing sink with
  | nil => rfl
  | cons text texts ih =>
      rw [sendAll, writeAll, send_eq_write, ← bytesOf]
      rcases sink.write (bytesOf text) with ⟨after, result⟩
      cases result with
      | ok => exact ih after
      | error error => rfl

end Portions

/-! ## reports -/

namespace ScanError

/-- The line that reports an error to a console, word for word. -/
def consoleLine (error : ScanError) : String :=
  let words := match error.fault with
    | .unexpectedCharacter c =>
      "Unexpected character '" ++ String.singleton c ++ "' at " ++ toString error.span.start
    | .unterminatedString => "No ending double quotes for specified string."
    | .tooManyDecimals _ => "More than one decimal in number"
  "Error occurred on line " ++ toString error.span.line ++ " : " ++ words ++ "\n"

theorem report_eq_consoleLine (error : ScanError) : error.report = error.consoleLine := by
  obtain ⟨fault, span⟩ := error
  cases fault <;> rfl

end ScanError

/-! ## journals -/

namespace Journal

/-- What a request adds to a journal. -/
def Request.recorded : Request → List Diagnostic
  | .add diagnostic => [diagnostic]
  | .scan source =>
    match ScriptScan.scan source with
    | .ok _ => []
    | .error error => [error.toDiagnostic]
  | .list | .writeTo _ _ => []

/-- What requests add to a journal, in order. -/
def recorded (requests : List Request) : List Diagnostic := requests.flatMap Request.recorded

/-- The text of diagnostics, one after the other. -/
def textOf (diagnostics : List Diagnostic) (source : Option (List Char)) : String :=
  String.join (diagnostics.map (·.render source))

/-- The journal after requests. -/
def after (journal : Journal) (requests : List Request) : Journal :=
  requests.foldl (fun journal request => (journal.handle request).2) journal

/-- **What one request adds**, behind what the journal holds. -/
theorem diagnostics_handle (journal : Journal) (request : Request) :
    (journal.handle request).2.diagnostics = journal.diagnostics ++ request.recorded := by
  cases request with
  | add diagnostic => rfl
  | scan source =>
      simp only [handle, scan, Request.recorded]
      cases ScriptScan.scan source <;> simp
  | list | writeTo => exact (List.append_nil _).symm

/-- **What requests add up to.** -/
theorem diagnostics_after (journal : Journal) (requests : List Request) :
    (journal.after requests).diagnostics = journal.diagnostics ++ recorded requests := by
  induction requests generalizing journal with
  | nil => exact (List.append_nil _).symm
  | cons request requests ih =>
      rw [after, List.foldl_cons, ← after, ih, diagnostics_handle, List.append_assoc]
      rfl

/-- The answer to a request is that of the journal after the requests before it. -/
theorem getElem?_run (journal : Journal) (earlier : List Request) (request : Request)
    (later : List Request) :
    (journal.run (earlier ++ request :: later))[earlier.length]? =
      some ((journal.after earlier).handle request) := by
  induction earlier generalizing journal with
  | nil => rfl
  | cons first earlier ih => exact ih (journal.handle first).2

/-- The reply to a request, made of a journal that holds the given diagnostics. -/
def Request.Replied (held : List Diagnostic) : Request → Reply → Prop
  | .add _, reply => reply = .done
  | .scan source, reply => reply = .outcome (ScriptScan.scan source)
  | .list, reply => reply = .listed held
  | .writeTo sink source, reply =>
    ∃ filled result, reply = .sent filled result ∧
      sink.Receives (textOf held source).toUTF8.data.toList filled result ∧
      ∀ portions : Portions,
        portions.sendAll sink (held.map (·.render source)) = (filled, result)

theorem replied_handle (journal : Journal) (request : Request) :
    request.Replied journal.diagnostics (journal.handle request).1 := by
  cases request with
  | add diagnostic => rfl
  | scan source =>
      simp only [Request.Replied, handle, scan]
      cases ScriptScan.scan source <;> rfl
  | list => rfl
  | writeTo sink source =>
      have hwrite : journal.writeTo sink source =
          sink.write (Sink.bytesOf (textOf journal.diagnostics source)) :=
        sink.writeAll_eq_write _
      refine ⟨(journal.writeTo sink source).1, (journal.writeTo sink source).2, rfl, ?_,
        fun portions => ?_⟩
      · rw [hwrite]
        exact sink.receives_write _
      · rw [portions.sendAll_eq_writeAll]
        rfl

/-- **A journal keeps all that is put into it**, in order, and changes in no other way.  The
reply to each request is made of what was put in before it: a scan gives what it gives
without a journal; a list is all that is kept; and of its text a sink receives as much of
the front as there is room for, and it is told if that is not all, in whatever portions the
sink takes it.  The report of an error arrives in the same way, in whatever pieces it is
sent. -/
theorem journal_keeps_and_sends_all :
    (∀ (earlier : List Request) (request : Request) (later : List Request),
      ∃ reply journal,
        (Journal.run {} (earlier ++ request :: later))[earlier.length]? = some (reply, journal) ∧
          request.Replied (recorded earlier) reply ∧
          journal.diagnostics = recorded (earlier ++ [request]) ∧
          journal.count = (recorded (earlier ++ [request])).length ∧
          (journal.hasErrors = true ↔ recorded (earlier ++ [request]) ≠ [])) ∧
    ∀ (error : ScanError) (sink : Sink),
      sink.Receives error.consoleLine.toUTF8.data.toList (error.reportTo sink).1
          (error.reportTo sink).2 ∧
        ∀ (portions : Portions) (pieces : List String), String.join pieces = error.consoleLine →
          portions.sendAll sink pieces = error.reportTo sink := by
  constructor
  · intro earlier request later
    have hheld : (after {} earlier).diagnostics = recorded earlier := diagnostics_after {} earlier
    have hreply := replied_handle (after {} earlier) request
    have hkept := diagnostics_handle (after {} earlier) request
    have hrun := getElem?_run {} earlier request later
    have hall : recorded (earlier ++ [request]) = recorded earlier ++ request.recorded := by
      simp [recorded]
    rw [hheld] at hreply hkept
    generalize (after {} earlier).handle request = answer at hreply hkept hrun
    obtain ⟨reply, journal⟩ := answer
    rw [hall, ← hkept]
    exact ⟨reply, journal, hrun, hreply, rfl, rfl, by simp [hasErrors]⟩
  · intro error sink
    rw [ScanError.reportTo, error.report_eq_consoleLine]
    refine ⟨sink.receives_write _, fun portions pieces hpieces => ?_⟩
    rw [portions.sendAll_eq_writeAll, Sink.writeAll_eq_write, hpieces]

end Journal

end ScriptScan
