import Datasynth.Lib.HashIteration
import Datasynth.Subledger.Documents
import Mathlib
import Mathlib.Data.List.Sort
import Mathlib.Tactic.Linarith

/-!
Aging reports over the invoices of customers: buckets by days overdue, for each customer and for
the company.
-/

namespace Datasynth.Subledger.AgingReports

open Datasynth.Lib.CivilCalendar Datasynth.Lib.HalfEvenRounding Datasynth.Lib.HashIteration
open Datasynth.Subledger.Documents

inductive AgingBucket where
  | current
  | days1To30
  | days31To60
  | days61To90
  | over90Days
deriving DecidableEq, Repr

def AgingBucket.all : List AgingBucket :=
  [.current, .days1To30, .days31To60, .days61To90, .over90Days]

def AgingBucket.from_days_overdue (days : ℤ) : AgingBucket :=
  if days ≤ 0 then .current
  else if days ≤ 30 then .days1To30
  else if days ≤ 60 then .days31To60
  else if days ≤ 90 then .days61To90
  else .over90Days

structure AgingInvoiceDetail where
  invoice_number : String
  invoice_date : Date
  due_date : Date
  amount_remaining : ℚ
  days_overdue : ℤ
  bucket : AgingBucket
deriving DecidableEq

/-- The maps by bucket have an entry for every bucket. -/
structure CustomerAging where
  customer_id : String
  customer_name : String
  total_balance : ℚ
  bucket_amounts : AgingBucket → ℚ
  invoice_counts : AgingBucket → ℕ
  oldest_invoice_date : Option Date
  weighted_avg_days : ℚ
  invoices : List AgingInvoiceDetail

/-- What the loop over the invoices of a customer keeps. -/
structure AgingState where
  bucket_amounts : AgingBucket → ℚ
  invoice_counts : AgingBucket → ℕ
  invoice_details : List AgingInvoiceDetail
  total_days_weighted : ℚ
  total_balance : ℚ
  oldest_date : Option Date

def AgingState.start : AgingState := ⟨fun _ => 0, fun _ => 0, [], 0, 0, none⟩

section Customers

variable (as_of_date : Date)

def bucketOf (invoice : ARInvoice) : AgingBucket :=
  .from_days_overdue (invoice.days_overdue as_of_date)

def detailOf (invoice : ARInvoice) : AgingInvoiceDetail where
  invoice_number := invoice.invoice_number
  invoice_date := invoice.invoice_date
  due_date := invoice.due_date
  amount_remaining := invoice.amount_remaining
  days_overdue := invoice.days_overdue as_of_date
  bucket := bucketOf as_of_date invoice

def AgingState.addInvoice (state : AgingState) (invoice : ARInvoice) : AgingState :=
  let bucket := bucketOf as_of_date invoice
  let amount := invoice.amount_remaining
  { bucket_amounts :=
      Function.update state.bucket_amounts bucket (state.bucket_amounts bucket + amount)
    invoice_counts :=
      Function.update state.invoice_counts bucket (state.invoice_counts bucket + 1)
    invoice_details := state.invoice_details ++ [detailOf as_of_date invoice]
    total_days_weighted :=
      state.total_days_weighted + invoice.invoice_date.daysUntil as_of_date * amount
    total_balance := state.total_balance + amount
    oldest_date :=
      if state.oldest_date.all fun date => invoice.invoice_date < date then
        some invoice.invoice_date
      else state.oldest_date }

def CustomerAging.from_invoices (customer_id customer_name : String)
    (invoices : List ARInvoice) : CustomerAging :=
  let state := invoices.foldl (AgingState.addInvoice as_of_date) .start
  { customer_id := customer_id
    customer_name := customer_name
    total_balance := state.total_balance
    bucket_amounts := state.bucket_amounts
    invoice_counts := state.invoice_counts
    oldest_invoice_date := state.oldest_date
    weighted_avg_days :=
      if 0 < state.total_balance then
        roundDp 1 (state.total_days_weighted / state.total_balance)
      else 0
    invoices :=
      state.invoice_details.insertionSort fun a b => b.days_overdue ≤ a.days_overdue }

end Customers

structure ARAgingReport where
  company_code : String
  as_of_date : Date
  customer_details : List CustomerAging
  bucket_totals : AgingBucket → ℚ
  total_ar_balance : ℚ
  total_current : ℚ
  total_overdue : ℚ
  overdue_percentage : ℚ

section Reports

variable (order : HashOrder) (company_code : String) (invoices : List ARInvoice)
  (as_of_date : Date)

def isIncluded (invoice : ARInvoice) : Bool :=
  invoice.company_code = company_code &&
    (invoice.status = .open || invoice.status = .partiallyCleared) &&
    invoice.invoice_date ≤ as_of_date

/-- The invoices that a report is about. -/
def included : List ARInvoice := invoices.filter (isIncluded company_code as_of_date)

/-- The customers in the order in which the map of their invoices is iterated. -/
def customerAgings : List CustomerAging :=
  (order.iter (groupsBy (·.customer_id) (included company_code invoices as_of_date))).map
    fun group =>
      .from_invoices as_of_date group.1 ((group.2.head?.map (·.customer_name)).getD "") group.2

def ARAgingReport.from_invoices : ARAgingReport :=
  let agings := customerAgings order company_code invoices as_of_date
  let bucket_totals := agings.foldl
    (fun totals aging bucket => totals bucket + aging.bucket_amounts bucket) fun _ => 0
  let total_ar_balance := (AgingBucket.all.map bucket_totals).sum
  let total_current := bucket_totals .current
  let total_overdue := total_ar_balance - total_current
  { company_code := company_code
    as_of_date := as_of_date
    customer_details := agings.insertionSort fun a b => b.total_balance ≤ a.total_balance
    bucket_totals := bucket_totals
    total_ar_balance := total_ar_balance
    total_current := total_current
    total_overdue := total_overdue
    overdue_percentage :=
      if 0 < total_ar_balance then roundDp 2 (total_overdue / total_ar_balance * 100) else 0 }

end Reports

end Datasynth.Subledger.AgingReports

/-!
Where an aging report puts what remains of invoices: by the days from the due date, or not.
-/

namespace Datasynth.Subledger.AgingBuckets

open Datasynth.Lib.CivilCalendar Datasynth.Lib.HashIteration
open Datasynth.Subledger.AgingReports Datasynth.Subledger.Documents

/-- The bucket that the days from the due date determine. -/
def dueBucket (as_of_date due_date : Date) : AgingBucket :=
  .from_days_overdue (due_date.daysUntil as_of_date)

/-- What remains of the invoices of a bucket. -/
def amountIn (place : ARInvoice → AgingBucket) (invoices : List ARInvoice)
    (bucket : AgingBucket) : ℚ :=
  ((invoices.filter fun invoice => place invoice = bucket).map (·.amount_remaining)).sum

def bucketSum (amounts : AgingBucket → ℚ) : ℚ := (AgingBucket.all.map amounts).sum

/-- The details of a customer, and their sums by bucket. -/
structure CustomerSums (customer : CustomerAging) : Prop where
  bucket_amounts : ∀ bucket, customer.bucket_amounts bucket =
    ((customer.invoices.filter fun detail => detail.bucket = bucket).map
      (·.amount_remaining)).sum
  total_balance : bucketSum customer.bucket_amounts = customer.total_balance

/-- A report that places what remains of every invoice by its due date. -/
structure AgesByDueDate (report : ARAgingReport) (invoices : List ARInvoice) (as_of_date : Date) :
    Prop where
  details : (report.customer_details.flatMap fun customer => customer.invoices.map fun detail =>
      (detail.invoice_number, detail.due_date, detail.amount_remaining)).Perm
    (invoices.map fun invoice =>
      (invoice.invoice_number, invoice.due_date, invoice.amount_remaining))
  buckets : ∀ customer ∈ report.customer_details, ∀ detail ∈ customer.invoices,
    detail.bucket = dueBucket as_of_date detail.due_date
  customers : ∀ customer ∈ report.customer_details, CustomerSums customer
  bucket_totals : ∀ bucket, report.bucket_totals bucket =
    amountIn (fun invoice => dueBucket as_of_date invoice.due_date) invoices bucket
  total_ar_balance : report.total_ar_balance = (invoices.map (·.amount_remaining)).sum
  partition : bucketSum report.bucket_totals = report.total_ar_balance
  total_overdue : report.total_overdue =
    ((invoices.filter fun invoice => invoice.due_date < as_of_date).map (·.amount_remaining)).sum

section Sums

variable {place : ARInvoice → AgingBucket} {invoices : List ARInvoice}

theorem amountIn_append (place : ARInvoice → AgingBucket) (before after : List ARInvoice)
    (bucket : AgingBucket) :
    amountIn place (before ++ after) bucket =
      amountIn place before bucket + amountIn place after bucket := by
  rw [amountIn, List.filter_append, List.map_append, List.sum_append]
  rfl

theorem amountIn_singleton (place : ARInvoice → AgingBucket) (invoice : ARInvoice)
    (bucket : AgingBucket) :
    amountIn place [invoice] bucket =
      if place invoice = bucket then invoice.amount_remaining else 0 := by
  rw [amountIn, List.filter_singleton]
  split
  · rename_i hplace
    rw [decide_eq_true hplace]
    simp
  · rename_i hplace
    rw [decide_eq_false hplace]
    rfl

theorem amountIn_perm {invoices' : List ARInvoice} (h : invoices.Perm invoices')
    (place : ARInvoice → AgingBucket) (bucket : AgingBucket) :
    amountIn place invoices bucket = amountIn place invoices' bucket :=
  ((h.filter _).map _).sum_eq

theorem bucketSum_add (f g : AgingBucket → ℚ) :
    bucketSum (fun bucket => f bucket + g bucket) = bucketSum f + bucketSum g :=
  List.sum_map_add

theorem amountIn_flatMap (place : ARInvoice → AgingBucket)
    (groups : List (String × List ARInvoice)) (bucket : AgingBucket) :
    amountIn place (groups.flatMap Prod.snd) bucket =
      (groups.map fun group => amountIn place group.2 bucket).sum := by
  induction groups with
  | nil => rfl
  | cons group groups ih =>
      rw [List.flatMap_cons, amountIn_append, ih, List.map_cons, List.sum_cons]

/-- The buckets together hold every amount once. -/
theorem bucketSum_amountIn (place : ARInvoice → AgingBucket) (invoices : List ARInvoice) :
    bucketSum (amountIn place invoices) = (invoices.map (·.amount_remaining)).sum := by
  induction invoices with
  | nil => simp [bucketSum, AgingBucket.all, amountIn]
  | cons invoice invoices ih =>
      have hsplit : amountIn place (invoice :: invoices) =
          fun bucket => amountIn place [invoice] bucket + amountIn place invoices bucket := by
        funext bucket
        exact amountIn_append place [invoice] invoices bucket
      rw [hsplit, bucketSum_add, ih, List.map_cons, List.sum_cons]
      congr 1
      rw [bucketSum, AgingBucket.all]
      simp only [List.map_cons, List.map_nil, List.sum_cons, List.sum_nil, amountIn_singleton]
      cases place invoice with
      | current => simp
      | days1To30 => simp
      | days31To60 => simp
      | days61To90 => simp
      | over90Days => simp

end Sums

section Customers

variable (as_of_date : Date)

/-- The loop adds the invoices up by the bucket that it puts them in. -/
theorem foldl_addInvoice (invoices : List ARInvoice) :
    let state := invoices.foldl (AgingState.addInvoice as_of_date) .start
    state.bucket_amounts = amountIn (bucketOf as_of_date) invoices ∧
      state.invoice_details = invoices.map (detailOf as_of_date) ∧
      state.total_balance = (invoices.map (·.amount_remaining)).sum := by
  induction invoices using List.reverseRecOn with
  | nil => exact ⟨rfl, rfl, rfl⟩
  | append_singleton invoices invoice ih =>
      obtain ⟨hamounts, hdetails, htotal⟩ := ih
      simp only [List.foldl_concat]
      refine ⟨?_, ?_, ?_⟩
      · funext bucket
        rw [amountIn_append, amountIn_singleton, AgingState.addInvoice]
        simp only [hamounts, Function.update_apply]
        split
        · rename_i hbucket
          rw [if_pos hbucket.symm, hbucket]
        · rename_i hbucket
          rw [if_neg (Ne.symm hbucket), add_zero]
      · rw [AgingState.addInvoice, hdetails, List.map_append]
        rfl
      · rw [AgingState.addInvoice, htotal, List.map_append, List.sum_append]
        simp

theorem invoices_perm (customer_id customer_name : String) (invoices : List ARInvoice) :
    (CustomerAging.from_invoices as_of_date customer_id customer_name invoices).invoices.Perm
      (invoices.map (detailOf as_of_date)) := by
  obtain ⟨-, hdetails, -⟩ := foldl_addInvoice as_of_date invoices
  rw [← hdetails]
  exact List.perm_insertionSort _ _

theorem customerSums_from_invoices (customer_id customer_name : String)
    (invoices : List ARInvoice) :
    CustomerSums (.from_invoices as_of_date customer_id customer_name invoices) := by
  obtain ⟨hamounts, -, htotal⟩ := foldl_addInvoice as_of_date invoices
  refine ⟨fun bucket => ?_, ?_⟩
  · have hperm := invoices_perm as_of_date customer_id customer_name invoices
    rw [((hperm.filter _).map _).sum_eq, List.filter_map, List.map_map]
    exact congrFun hamounts bucket
  · rw [CustomerAging.from_invoices]
    simp only
    rw [hamounts, htotal, bucketSum_amountIn]

end Customers

section Reports

variable (order : HashOrder) (company_code : String) (invoices : List ARInvoice)
  (as_of_date : Date)

/-- The groups of the customers hold the included invoices. -/
theorem groups_perm :
    ((order.iter (groupsBy (·.customer_id) (included company_code invoices as_of_date))).flatMap
      Prod.snd).Perm (included company_code invoices as_of_date) :=
  ((order.perm _).flatMap_right _).trans (flatMap_groupsBy_perm _ _)

/-- Customers in any order have the details of the included invoices. -/
theorem details_perm :
    ((customerAgings order company_code invoices as_of_date).flatMap (·.invoices)).Perm
      ((included company_code invoices as_of_date).map (detailOf as_of_date)) := by
  refine List.Perm.trans ?_ ((groups_perm order company_code invoices as_of_date).map _)
  rw [customerAgings, List.map_flatMap, List.flatMap_map]
  apply List.Perm.flatMap_left
  intro group _
  exact invoices_perm as_of_date group.1 _ group.2

theorem bucket_totals_eq (bucket : AgingBucket) :
    (ARAgingReport.from_invoices order company_code invoices as_of_date).bucket_totals bucket =
      amountIn (bucketOf as_of_date) (included company_code invoices as_of_date) bucket := by
  have hfold : ∀ (agings : List CustomerAging) (totals : AgingBucket → ℚ),
      agings.foldl (fun totals aging bucket => totals bucket + aging.bucket_amounts bucket) totals
        bucket = totals bucket + (agings.map fun aging => aging.bucket_amounts bucket).sum := by
    intro agings
    induction agings with
    | nil => simp
    | cons aging agings ih =>
        intro totals
        rw [List.foldl_cons, ih, List.map_cons, List.sum_cons, add_assoc]
  rw [ARAgingReport.from_invoices]
  simp only
  rw [hfold, zero_add, ← amountIn_perm (groups_perm order company_code invoices as_of_date),
    amountIn_flatMap, customerAgings, List.map_map]
  congr 1
  apply List.map_congr_left
  intro group _
  exact congrFun (foldl_addInvoice as_of_date group.2).1 bucket

theorem total_ar_balance_eq :
    (ARAgingReport.from_invoices order company_code invoices as_of_date).total_ar_balance =
      ((included company_code invoices as_of_date).map (·.amount_remaining)).sum := by
  rw [← bucketSum_amountIn (bucketOf as_of_date),
    ← funext (bucket_totals_eq order company_code invoices as_of_date)]
  rfl

theorem customer_details_perm :
    (ARAgingReport.from_invoices order company_code invoices as_of_date).customer_details.Perm
      (customerAgings order company_code invoices as_of_date) :=
  List.perm_insertionSort _ _

end Reports

section Placement

variable {as_of_date due_date : Date} {invoice : ARInvoice}

theorem dueBucket_eq_current_iff :
    dueBucket as_of_date due_date = .current ↔ ¬ due_date < as_of_date := by
  have hdays : due_date.daysUntil as_of_date ≤ 0 ↔ as_of_date ≤ due_date := sub_nonpos
  rw [dueBucket, AgingBucket.from_days_overdue, not_lt, ← hdays]
  constructor
  · intro hcurrent
    by_contra hoverdue
    rw [if_neg hoverdue] at hcurrent
    split at hcurrent
    · cases hcurrent
    · split at hcurrent
      · cases hcurrent
      · split at hcurrent
        · cases hcurrent
        · cases hcurrent
  · intro hle
    exact if_pos hle

/-- Days overdue are counted for open invoices only. -/
theorem bucketOf_eq (as_of_date : Date) (invoice : ARInvoice) :
    bucketOf as_of_date invoice =
      if invoice.status = .open then dueBucket as_of_date invoice.due_date else .current := by
  rw [bucketOf, SubledgerInvoice.days_overdue, SubledgerInvoice.is_overdue]
  by_cases hopen : invoice.status = .open
  · rw [if_pos hopen, hopen]
    by_cases hoverdue : invoice.due_date < as_of_date
    · simp [hoverdue, dueBucket]
    · rw [dueBucket_eq_current_iff.mpr hoverdue]
      simp [hoverdue, AgingBucket.from_days_overdue]
  · rw [if_neg hopen]
    simp [hopen, AgingBucket.from_days_overdue]

theorem bucketOf_eq_dueBucket_iff :
    bucketOf as_of_date invoice = dueBucket as_of_date invoice.due_date ↔
      invoice.status = .open ∨ ¬ invoice.due_date < as_of_date := by
  rw [bucketOf_eq]
  split
  · rename_i hopen
    exact iff_of_true rfl (Or.inl hopen)
  · rename_i hclosed
    rw [or_iff_right hclosed, ← dueBucket_eq_current_iff]
    exact eq_comm

end Placement

section Contract

variable (order : HashOrder) (company_code : String) (invoices : List ARInvoice)
  (as_of_date : Date)

/-- A partially cleared invoice that is past due. -/
def PartlyPaidOverdue (as_of_date : Date) (invoice : ARInvoice) : Prop :=
  invoice.status = .partiallyCleared ∧ invoice.due_date < as_of_date

theorem not_partlyPaidOverdue_iff {invoice : ARInvoice}
    (h : invoice ∈ included company_code invoices as_of_date) :
    ¬ PartlyPaidOverdue as_of_date invoice ↔
      bucketOf as_of_date invoice = dueBucket as_of_date invoice.due_date := by
  have hstatus : invoice.status = .open ∨ invoice.status = .partiallyCleared := by
    have hincluded := (List.mem_filter.mp h).2
    rw [isIncluded] at hincluded
    simp only [Bool.and_eq_true, Bool.or_eq_true, decide_eq_true_eq] at hincluded
    exact hincluded.1.2
  rw [bucketOf_eq_dueBucket_iff, PartlyPaidOverdue, not_and_or]
  apply or_congr_left
  rcases hstatus with hopen | hpartly
  · rw [hopen]
    decide
  · rw [hpartly]
    decide

theorem details_of_customers_perm :
    ((ARAgingReport.from_invoices order company_code invoices
        as_of_date).customer_details.flatMap (·.invoices)).Perm
      ((included company_code invoices as_of_date).map (detailOf as_of_date)) :=
  ((customer_details_perm order company_code invoices as_of_date).flatMap_right _).trans
    (details_perm order company_code invoices as_of_date)

/-- The details of a report are in the buckets of their due dates exactly if this is so of its
invoices. -/
theorem buckets_iff :
    (∀ customer ∈
        (ARAgingReport.from_invoices order company_code invoices as_of_date).customer_details,
      ∀ detail ∈ customer.invoices, detail.bucket = dueBucket as_of_date detail.due_date) ↔
    ∀ invoice ∈ included company_code invoices as_of_date,
      bucketOf as_of_date invoice = dueBucket as_of_date invoice.due_date := by
  have hperm := details_of_customers_perm order company_code invoices as_of_date
  constructor
  · intro hbuckets invoice hinvoice
    have hdetail := hperm.mem_iff.mpr (List.mem_map_of_mem hinvoice)
    obtain ⟨customer, hcustomer, hdetail⟩ := List.mem_flatMap.mp hdetail
    exact hbuckets customer hcustomer _ hdetail
  · intro hplaced customer hcustomer detail hdetail
    have hmem := hperm.mem_iff.mp (List.mem_flatMap.mpr ⟨customer, hcustomer, hdetail⟩)
    obtain ⟨invoice, hinvoice, rfl⟩ := List.mem_map.mp hmem
    exact hplaced invoice hinvoice

theorem customerSums_of_mem {customer : CustomerAging}
    (h : customer ∈ (ARAgingReport.from_invoices order company_code invoices
      as_of_date).customer_details) : CustomerSums customer := by
  have hmem := (customer_details_perm order company_code invoices as_of_date).mem_iff.mp h
  obtain ⟨group, -, rfl⟩ := List.mem_map.mp hmem
  exact customerSums_from_invoices as_of_date _ _ _

/-- What is not past due is in the current bucket, the rest is overdue. -/
theorem amountIn_current_add_overdue (as_of_date : Date) (invoices : List ARInvoice) :
    amountIn (fun invoice => dueBucket as_of_date invoice.due_date) invoices .current +
        ((invoices.filter fun invoice => invoice.due_date < as_of_date).map
          (·.amount_remaining)).sum =
      (invoices.map (·.amount_remaining)).sum := by
  induction invoices with
  | nil => exact add_zero 0
  | cons invoice invoices ih =>
      rw [← List.singleton_append, amountIn_append, amountIn_singleton, List.filter_append,
        List.map_append, List.sum_append, List.map_append, List.sum_append, ← ih,
        add_add_add_comm]
      congr 1
      by_cases hoverdue : invoice.due_date < as_of_date
      · rw [if_neg fun hcurrent => dueBucket_eq_current_iff.mp hcurrent hoverdue]
        simp [hoverdue]
      · rw [if_pos (dueBucket_eq_current_iff.mpr hoverdue)]
        simp [hoverdue]

/-- A report ages by due dates exactly if none of its invoices is partly paid and overdue. -/
theorem aging_report_iff :
    AgesByDueDate (.from_invoices order company_code invoices as_of_date)
        (included company_code invoices as_of_date) as_of_date ↔
      ∀ invoice ∈ included company_code invoices as_of_date,
        ¬ PartlyPaidOverdue as_of_date invoice := by
  have hcondition : (∀ invoice ∈ included company_code invoices as_of_date,
      ¬ PartlyPaidOverdue as_of_date invoice) ↔
        ∀ invoice ∈ included company_code invoices as_of_date,
          bucketOf as_of_date invoice = dueBucket as_of_date invoice.due_date :=
    forall₂_congr fun _ => not_partlyPaidOverdue_iff company_code invoices as_of_date
  rw [hcondition, ← buckets_iff order]
  constructor
  · intro h
    exact h.buckets
  · intro hbuckets
    have hplaced := (buckets_iff order company_code invoices as_of_date).mp hbuckets
    have htotals : ∀ bucket, (ARAgingReport.from_invoices order company_code invoices
        as_of_date).bucket_totals bucket =
          amountIn (fun invoice => dueBucket as_of_date invoice.due_date)
            (included company_code invoices as_of_date) bucket := by
      intro bucket
      rw [bucket_totals_eq, amountIn, amountIn]
      congr 2
      apply List.filter_congr
      intro invoice hinvoice
      rw [hplaced invoice hinvoice]
    refine ⟨?_, hbuckets, fun customer => customerSums_of_mem order company_code invoices
      as_of_date, htotals, total_ar_balance_eq order company_code invoices as_of_date, rfl, ?_⟩
    · have hperm := (details_of_customers_perm order company_code invoices as_of_date).map
        fun detail => (detail.invoice_number, detail.due_date, detail.amount_remaining)
      rw [List.map_flatMap, List.map_map] at hperm
      exact hperm
    · have hoverdue := amountIn_current_add_overdue as_of_date
        (included company_code invoices as_of_date)
      rw [← htotals, ← total_ar_balance_eq order] at hoverdue
      exact sub_eq_iff_eq_add'.mpr hoverdue.symm

/-- An invoice over 1000, half of which is paid before it is due. -/
def halfPaidInvoice : ARInvoice :=
  ((ARInvoice.new "INV001" "1000" "CUST001" "Customer" ⟨0⟩ 30 "USD").add_line
    ⟨10, 100, 1000, 0, 0, 1000⟩).apply_payment 500 ⟨"PAY001", ⟨20⟩, 500, .payment⟩

/-- Ninety-nine days after its due date, the other half is reported as current. -/
theorem partly_paid_is_current :
    ¬ ∀ (order : HashOrder) (company_code : String) (invoices : List ARInvoice)
        (as_of_date : Date),
      AgesByDueDate (.from_invoices order company_code invoices as_of_date)
        (included company_code invoices as_of_date) as_of_date := by
  intro h
  have hbuckets := (buckets_iff .insertion "1000" [halfPaidInvoice] ⟨129⟩).mp
    (h .insertion "1000" [halfPaidInvoice] ⟨129⟩).buckets
  have hplaced := hbuckets halfPaidInvoice (by decide_cbv)
  rcases bucketOf_eq_dueBucket_iff.mp hplaced with hopen | hdue
  · exact absurd hopen (by decide_cbv)
  · have hdays : halfPaidInvoice.due_date.dayNumber < 129 := by decide_cbv
    exact hdue hdays

end Contract

end Datasynth.Subledger.AgingBuckets
