import Mathlib.Algebra.Ring.Rat
import Mathlib.Algebra.Order.Ring.Unbundled.Rat
import Mathlib.Data.List.Lex
import Mathlib.Order.Fin.Basic
import Datasynth.Lib.ByteEncoding
import Datasynth.Lib.CivilCalendar
import Datasynth.Lib.SignedPostings

/-!
Journal entries with the intercompany linkage of their header.  Amounts are
exact rationals, a debit and a credit column as in the source.
-/

namespace Datasynth.Core.JournalEntries

open Datasynth.Lib.ByteEncoding
open Datasynth.Lib.CivilCalendar
open Datasynth.Lib.SignedPostings

structure Digest where
  bytes : List Byte
  length_bytes : bytes.length = 32
deriving DecidableEq

theorem Digest.bytes_injective : Function.Injective Digest.bytes := by
  rintro ⟨a, ha⟩ ⟨b, hb⟩ h
  cases h
  rfl

/-- A digest from the number its hexadecimal text stands for. -/
def digestOfNat (n : ℕ) : Digest := ⟨(leBytes 32 n).reverse, by simp [leBytes_length]⟩

structure IcPairId where
  fromBytes ::
  asBytes : Digest

theorem IcPairId.asBytes_injective : Function.Injective IcPairId.asBytes := by
  rintro ⟨a⟩ ⟨b⟩ h
  exact congrArg IcPairId.fromBytes h

instance : LinearOrder IcPairId :=
  LinearOrder.lift' (fun id => id.asBytes.bytes)
    (Digest.bytes_injective.comp IcPairId.asBytes_injective)

def IcPairId.toHex (id : IcPairId) : String := String.ofList (hexEncode id.asBytes.bytes)

structure JournalEntryHeader where
  company_code : String
  fiscal_year : ℤ
  fiscal_period : ℕ
  posting_date : Date
  document_date : Date
  document_type : String
  currency : String
  header_text : Option String
  created_by : String
  is_elimination : Bool
  ic_pair_id : Option IcPairId
  ic_partner_entity : Option String
deriving DecidableEq

def JournalEntryHeader.new (company_code : String) (posting_date : Date) : JournalEntryHeader where
  company_code := company_code
  fiscal_year := posting_date.year
  fiscal_period := posting_date.month
  posting_date := posting_date
  document_date := posting_date
  document_type := "SA"
  currency := "USD"
  header_text := none
  created_by := "SYSTEM"
  is_elimination := false
  ic_pair_id := none
  ic_partner_entity := none

structure JournalEntryLine where
  line_number : ℕ
  gl_account : String
  debit_amount : ℚ
  credit_amount : ℚ
deriving DecidableEq

def JournalEntryLine.debit (line_number : ℕ) (gl_account : String) (amount : ℚ) :
    JournalEntryLine :=
  ⟨line_number, gl_account, amount, 0⟩

def JournalEntryLine.credit (line_number : ℕ) (gl_account : String) (amount : ℚ) :
    JournalEntryLine :=
  ⟨line_number, gl_account, 0, amount⟩

def JournalEntryLine.is_debit (line : JournalEntryLine) : Bool := 0 < line.debit_amount

structure JournalEntry where
  header : JournalEntryHeader
  lines : List JournalEntryLine
deriving DecidableEq

def JournalEntry.new (header : JournalEntryHeader) : JournalEntry := ⟨header, []⟩

def JournalEntry.add_line (je : JournalEntry) (line : JournalEntryLine) : JournalEntry :=
  { je with lines := je.lines ++ [line] }

def JournalEntry.total_debit (je : JournalEntry) : ℚ := (je.lines.map (·.debit_amount)).sum

def JournalEntry.total_credit (je : JournalEntry) : ℚ := (je.lines.map (·.credit_amount)).sum

/-- The signed amounts an entry posts, debits minus credits. -/
def JournalEntry.postings (je : JournalEntry) : List (String × ℚ) :=
  je.lines.map fun line => (line.gl_account, line.debit_amount - line.credit_amount)

@[simp] theorem JournalEntry.add_line_lines (je : JournalEntry) (line : JournalEntryLine) :
    (je.add_line line).lines = je.lines ++ [line] := rfl

end Datasynth.Core.JournalEntries
