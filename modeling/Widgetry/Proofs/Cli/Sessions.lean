import Widgetry.Cli.Session
import Widgetry.Proofs.Project.Deeds

/-!
Work in sessions that always comes down to the same deeds and the same lines. Such work succeeds if
and only if its deeds can be done, so what is known about doing deeds again holds for it.
-/

namespace Widgetry.Cli.SessionM

variable {α β : Type}

/-- Whatever the session, the work does these deeds, prints the same lines and gives this result. -/
def Performs (work : SessionM α) (result : α) (deeds : List Deed) : Prop :=
  ∃ lines, ∀ before value after, work before = (.ok value, after) ↔
    value = result ∧ Does deeds before.disk after.disk ∧
      after.printed = before.printed ++ lines

theorem disk_bind (next : Disk → SessionM β) (before : Session) :
    (disk >>= next) before = next before.disk before := rfl

theorem print_bind (text : String) (next : Unit → SessionM β) (before : Session) :
    (print text >>= next) before
      = next () { before with printed := before.printed ++ [.text text] } := rfl

/-- What does not depend on the session is found first. -/
theorem lift_bind_eq_ok {value : Except Error α} {next : α → SessionM β} {result : β}
    {before after : Session} :
    (liftM value >>= next : SessionM β) before = (.ok result, after) ↔
      ∃ found, value = .ok found ∧ next found before = (.ok result, after) := by
  rw [bind_eq_ok]
  constructor
  · rintro ⟨found, middle, hfound, hnext⟩
    obtain ⟨rfl, rfl⟩ := Prod.mk.inj hfound
    exact ⟨found, rfl, hnext⟩
  · rintro ⟨found, rfl, hnext⟩
    exact ⟨found, before, rfl, hnext⟩

theorem pure_eq_ok {value result : α} {before after : Session} :
    (pure value : SessionM α) before = (.ok result, after) ↔ value = result ∧ after = before := by
  constructor
  · intro h
    obtain ⟨hvalue, rfl⟩ := Prod.mk.inj h
    exact ⟨Except.ok.inj hvalue, rfl⟩
  · rintro ⟨rfl, rfl⟩
    rfl

namespace Performs

/-- Work that prints some lines and does nothing else. -/
theorem of_prints {work : SessionM α} {result : α} (lines : List Line)
    (h : ∀ before, work before
      = (.ok result, { before with printed := before.printed ++ lines })) :
    Performs work result [] := by
  refine ⟨lines, fun before value after => ?_⟩
  rw [h]
  constructor
  · intro heq
    obtain ⟨hvalue, rfl⟩ := Prod.mk.inj heq
    exact ⟨(Except.ok.inj hvalue).symm, .nil _, rfl⟩
  · rintro ⟨rfl, hdoes, hprinted⟩
    obtain ⟨disk, printed⟩ := after
    obtain rfl : printed = before.printed ++ lines := hprinted
    cases hdoes
    rfl

theorem pure (value : α) : Performs (Pure.pure value) value [] :=
  of_prints [] fun before => by rw [List.append_nil]; rfl

theorem printLine (line : Line) : Performs (printLine line) () [] := of_prints [line] fun _ => rfl

theorem print (text : String) : Performs (print text) () [] := printLine (.text text)

theorem lift {value : Except Error α} {result : α} (h : value = .ok result) :
    Performs (liftM value : SessionM α) result [] :=
  of_prints [] fun before => by rw [List.append_nil, h]; rfl

theorem bind {first : SessionM α} {next : α → SessionM β} {value : α} {result : β}
    {deeds rest : List Deed} (hfirst : Performs first value deeds)
    (hnext : Performs (next value) result rest) :
    Performs (first >>= next) result (deeds ++ rest) := by
  obtain ⟨lines, hfirst⟩ := hfirst
  obtain ⟨more, hnext⟩ := hnext
  refine ⟨lines ++ more, fun before found after => ?_⟩
  rw [bind_eq_ok]
  constructor
  · rintro ⟨given, middle, hgiven, hfound⟩
    obtain ⟨rfl, hdeeds, hlines⟩ := (hfirst _ _ _).1 hgiven
    obtain ⟨rfl, hrest, hmore⟩ := (hnext _ _ _).1 hfound
    exact ⟨rfl, hdeeds.append hrest, by rw [hmore, hlines, List.append_assoc]⟩
  · rintro ⟨rfl, hdoes, hprinted⟩
    obtain ⟨disk, hdeeds, hrest⟩ := does_append hdoes
    refine ⟨value, ⟨disk, before.printed ++ lines⟩, (hfirst _ _ _).2 ⟨rfl, hdeeds, rfl⟩,
      (hnext _ _ _).2 ⟨rfl, hrest, ?_⟩⟩
    rw [hprinted, List.append_assoc]

/-- What only prints adds nothing to the deeds before it. -/
theorem bind_nil {first : SessionM α} {next : α → SessionM β} {value : α} {result : β}
    {deeds : List Deed} (hfirst : Performs first value deeds)
    (hnext : Performs (next value) result []) : Performs (first >>= next) result deeds := by
  have h := hfirst.bind hnext
  rwa [List.append_nil] at h

theorem perform {work : Work α} {result : α} {deeds : List Deed}
    (h : ∀ before value after, work.Succeeds before value after ↔
      Does deeds before after ∧ value = result) : Performs (perform work) result deeds := by
  refine ⟨[], fun before value after => ?_⟩
  constructor
  · intro heq
    rcases hwork : work before.disk with ⟨outcome, disk⟩
    rw [SessionM.perform, hwork] at heq
    obtain ⟨rfl, rfl⟩ := Prod.mk.inj heq
    obtain ⟨hdoes, rfl⟩ := (h _ _ _).1 hwork
    exact ⟨rfl, hdoes, (List.append_nil _).symm⟩
  · rintro ⟨rfl, hdoes, hprinted⟩
    have hwork : work before.disk = (.ok value, after.disk) := (h _ _ _).2 ⟨hdoes, rfl⟩
    obtain ⟨disk, printed⟩ := after
    obtain rfl : printed = before.printed := by simpa using hprinted
    rw [SessionM.perform, hwork]

theorem forM {items : List α} {act : α → SessionM Unit} {deeds : α → List Deed}
    (h : ∀ item ∈ items, Performs (act item) () (deeds item)) :
    Performs (items.forM act) () (items.flatMap deeds) := by
  induction items with
  | nil => exact pure ()
  | cons item rest ih =>
    obtain ⟨hitem, hrest⟩ := List.forall_mem_cons.1 h
    exact hitem.bind (ih hrest)

theorem forM_nil {act : α → SessionM Unit} (items : List α)
    (h : ∀ item, Performs (act item) () []) : Performs (items.forM act) () [] := by
  have hall := forM fun item (_ : item ∈ items) => h item
  rwa [List.flatMap_eq_nil_iff.2 fun _ _ => rfl] at hall

end Performs

end Widgetry.Cli.SessionM
