import VolatilityDesk.Command.Workplace
import VolatilityDesk.Proofs.Fallible
/-!
# Work in steps

Work in two steps goes on with the second where the first one ended well, and ends early where the
first one does. So work of which it is known that it was done can be taken apart: each of its steps
was done, and the next one started at the workplace that it left.

* `Work.exists_of_run_bind` — both steps of work that was done were done.
* `Work.run_print` — printing is done as far as the terminal takes the things.
* `Work.run_prices_of_error` — how work ends on a price file that is not read.
-/

namespace VolatilityDesk

/-! ### Terminals -/

namespace Terminal

variable {t : Terminal} {printed after things : List Printed} {fault : MarkupFault}

/-- Everything is printed if nothing is refused. -/
theorem print_eq_ok_iff : t.print printed things = (.ok (), after) ↔
    (∀ thing ∈ things, t.fault? thing = none) ∧ after = printed ++ things := by
  induction things generalizing printed with
  | nil => simp [print, eq_comm]
  | cons thing rest ih =>
    unfold print
    cases refused : t.fault? thing with
    | none => simp [ih, refused]
    | some fault => simp [refused]

/-- What is refused first keeps everything behind it from being printed. -/
theorem print_of_refused {thing : Printed} (refused : t.fault? thing = some fault) :
    t.print printed (thing :: things) = (.error fault, printed) := by
  unfold print
  rw [refused]

end Terminal

namespace Work

variable {α β : Type} {w middle after : Workplace} {first : Work α} {next : α → Work β} {a : α}
  {b : β}

/-! ### Two steps -/

/-- A step of work that succeeds leaves the rest to do at its workplace. -/
theorem run_bind_ok (done : first.run w = (.ok a, middle)) :
    (first >>= next).run w = (next a).run middle := by
  have unfolded : (first >>= next).run w =
      ExceptT.bindCont next (first.run w).1 (first.run w).2 := rfl
  rw [unfolded, done]
  rfl

/-- Work ends early where a step of it does. -/
theorem run_bind_error {reason : EarlyEnd} (ended : first.run w = (.error reason, middle)) :
    (first >>= next).run w = (.error reason, middle) := by
  have unfolded : (first >>= next).run w =
      ExceptT.bindCont next (first.run w).1 (first.run w).2 := rfl
  rw [unfolded, ended]
  rfl

/-- Work in two steps is done when both are, the second where the first one ended. -/
theorem exists_of_run_bind (done : (first >>= next).run w = (.ok b, after)) :
    ∃ a middle, first.run w = (.ok a, middle) ∧ (next a).run middle = (.ok b, after) := by
  rcases ran : first.run w with ⟨out, middle⟩
  cases out with
  | error reason =>
    rw [run_bind_error ran] at done
    cases done
  | ok a =>
    rw [run_bind_ok ran] at done
    exact ⟨a, middle, rfl, done⟩

/-- Work that ends well gives nothing but the workplace after it. -/
theorem eq_of_isOk {ended : Except EarlyEnd Unit × Workplace} (ok : ended.1.isOk = true) :
    ended = (.ok (), ended.2) := by
  obtain ⟨u, same⟩ := Fallible.isOk_iff.mp ok
  exact Prod.ext same rfl

/-! ### Single steps -/

theorem run_get : (get : Work Workplace).run w = (.ok w, w) := rfl

/-- Things are printed behind what was printed before, as far as the terminal takes them. -/
theorem run_print (things : List Printed) : (print things).run w =
    (((w.terminal.print w.printed things).1).mapError (.fault ∘ .console),
      { w with printed := (w.terminal.print w.printed things).2 }) := by
  rw [print, run_bind_ok run_get]
  rcases w.terminal.print w.printed things with ⟨out, printed⟩
  cases out with
  | error fault => rfl
  | ok u => rfl

theorem run_print_of_taken {things : List Printed}
    (taken : ∀ thing ∈ things, w.terminal.fault? thing = none) :
    (print things).run w = (.ok (), { w with printed := w.printed ++ things }) := by
  rw [run_print, Terminal.print_eq_ok_iff.mpr ⟨taken, rfl⟩]
  rfl

theorem run_print_of_refused {thing : Printed} {things : List Printed} {fault : MarkupFault}
    (refused : w.terminal.fault? thing = some fault) :
    (print (thing :: things)).run w = (.error (.fault (.console fault)), w) := by
  rw [run_print, Terminal.print_of_refused refused]
  rfl

/-- After all was printed it stands behind what was printed before. -/
theorem eq_of_run_print {things : List Printed} {u : Unit}
    (done : (print things).run w = (.ok u, after)) :
    after = { w with printed := w.printed ++ things } := by
  rw [run_print] at done
  rcases outcome : w.terminal.print w.printed things with ⟨out, printed⟩
  rw [outcome] at done
  cases out with
  | error fault => cases done
  | ok u =>
    obtain ⟨-, rfl⟩ := Terminal.print_eq_ok_iff.mp outcome
    cases done
    rfl

theorem run_of_run_print_bind {things : List Printed} {next : Unit → Work β}
    (done : (print things >>= next).run w = (.ok b, after)) :
    (next ()).run { w with printed := w.printed ++ things } = (.ok b, after) := by
  obtain ⟨u, middle, first, rest⟩ := exists_of_run_bind done
  rw [← eq_of_run_print first]
  exact rest

/-- A step that ends the work where there is no result leaves the rest to do with a result. -/
theorem exists_of_run_orFail_bind {ε : Type} {wrap : ε → CommandFault} {result : Except ε α}
    (done : (orFail wrap result >>= next).run w = (.ok b, after)) :
    ∃ a, result = .ok a ∧ (next a).run w = (.ok b, after) := by
  cases result with
  | error fault => cases done
  | ok a => exact ⟨a, rfl, done⟩

/-! ### Settings -/

theorem run_settings {s : Settings} (loads : w.settings = .ok s) :
    settings.run w = (.ok s, w) := by
  rw [settings, run_bind_ok run_get, loads]
  rfl

theorem exists_of_run_settings_bind {next : Settings → Work β}
    (done : (settings >>= next).run w = (.ok b, after)) :
    ∃ s, w.settings = .ok s ∧ (next s).run w = (.ok b, after) := by
  rw [settings, bind_assoc, run_bind_ok run_get] at done
  exact exists_of_run_orFail_bind done

/-! ### Prices -/

variable {path : String} {snapshot : Snapshot Float} {fault : PriceFileFault}

/-- The line that reports a bad file. -/
def report (fault : PriceFileFault) : Printed := .line s!"[red]{fault.message}[/red]"

/-- How a command ends whose price file is not read, and the workplace that it leaves: a bad file is
reported there and refused, if the terminal takes the report. -/
def unread (fault : PriceFileFault) (w : Workplace) : EarlyEnd × Workplace :=
  if fault.isBadFile then
    match w.terminal.fault? (report fault) with
    | none => (.refused, { w with printed := w.printed ++ [report fault] })
    | some refusal => (.fault (.console refusal), w)
  else (.fault (.file fault), w)

/-- The price file at a path is read. -/
def PricesRead (w : Workplace) (path : String) (snapshot : Snapshot Float) : Prop :=
  PriceFile.read ((w.files.find? path).getD (path, [])).1
    ((w.files.find? path).getD (path, [])).2 = .ok snapshot

theorem run_prices (read : PricesRead w path snapshot) :
    (prices path).run w = (.ok snapshot, w) := by
  rw [prices, run_bind_ok run_get]
  rcases sought : (w.files.find? path).getD (path, []) with ⟨name, bytes⟩
  rw [PricesRead, sought] at read
  simp only [read]
  rfl

theorem run_prices_of_error (failed : PriceFile.read ((w.files.find? path).getD (path, [])).1
      ((w.files.find? path).getD (path, [])).2 = .error fault) :
    (prices path).run w = (.error (unread fault w).1, (unread fault w).2) := by
  rw [prices, run_bind_ok run_get, unread]
  rcases sought : (w.files.find? path).getD (path, []) with ⟨name, bytes⟩
  rw [sought] at failed
  simp only [failed]
  cases fault.isBadFile with
  | false => rfl
  | true =>
    rw [if_pos rfl, if_pos rfl, say]
    cases refused : w.terminal.fault? (report fault) with
    | none => exact run_bind_ok (run_print_of_taken (List.forall_mem_singleton.mpr refused))
    | some refusal => exact run_bind_error (run_print_of_refused refused)

theorem exists_of_run_prices_bind {next : Snapshot Float → Work β}
    (done : (prices path >>= next).run w = (.ok b, after)) :
    ∃ snapshot, PricesRead w path snapshot ∧ (next snapshot).run w = (.ok b, after) := by
  cases outcome : PriceFile.read ((w.files.find? path).getD (path, [])).1
      ((w.files.find? path).getD (path, [])).2 with
  | ok snapshot =>
    rw [run_bind_ok (run_prices outcome)] at done
    exact ⟨snapshot, outcome, done⟩
  | error fault =>
    rw [run_bind_error (run_prices_of_error outcome)] at done
    cases done

end Work

end VolatilityDesk
