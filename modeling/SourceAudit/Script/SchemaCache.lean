/-
A stale schema in the store's cache: the user is told how to refresh it, and then
it is tried out whether rows and uploads are taken.
-/
import SourceAudit.Shell.Script
import SourceAudit.Store.Service

namespace SourceAudit.SchemaCache

open Script Store

/-- Tells the user how to refresh the cache and waits until it is done. -/
def awaitRefresh : Script Unit := do
  let rule := Text.repeated 60 "="
  sayAll ["\n" ++ rule, "🔧 SUPABASE SCHEMA CACHE REFRESH REQUIRED", rule, "",
    "Please follow these steps in your Supabase dashboard:", "",
    "1. Go to: https://supabase.com/dashboard/project/YOUR_PROJECT",
    "2. Navigate to: Settings > API",
    "3. Click: 'Reset Schema Cache' button",
    "4. Or alternatively: Restart your Supabase project", "",
    "After refreshing the cache, press Enter to continue..."]
  ask

def trialRow : Value :=
  .record [("user_id", .text "00000000-0000-0000-0000-000000000000"),
    ("name", .text "Schema Cache Test"),
    ("description", .text "Testing if description column is now recognized"),
    ("status", .text "pending"), ("file_count", .int 1)]

/-- Enters a row and takes it away again: whether the store takes it. -/
def tryRow : Script Bool := do
  say "📤 Testing insert with description column..."
  let data ← rows ((Query.table "scans").insert trialRow)
  if !data.isTruthy then
    say "❌ Insert returned no data"
    return false
  let scan ← ofOutcome (do (← first data).pick "id")
  say ("✅ Insert successful! Scan ID: " ++ scan.shown)
  let _ ← rows ((Query.table "scans").delete.eq "id" scan)
  say "🧹 Test data cleaned up"
  return true

/-- Tries out whether the store takes rows. -/
def test : Script Bool := do
  sayAll ["\n🧪 Testing Schema Cache Fix", Text.repeated 30 "-"]
  rescue (do
    require ["supabase"]
    let env := (← read).environment
    match setting? env "SUPABASE_URL", setting? env "SUPABASE_ANON_KEY" with
    | some url, some key =>
      note (.connected url key)
      tryRow
    | _, _ =>
      say "❌ Missing Supabase credentials"
      return false) fun f => do
    say ("❌ Test failed: " ++ f.message)
    return false

def trialFile : String := "test_upload.py"

def tryUpload : Script Bool :=
  rescue (do
    let bytes ← ofOutcome ((← get).tree.read trialFile)
    say "📤 Sending upload request..."
    let (status, _, text) ← request "post" "http://localhost:8000/scan"
      (.record [("user_id", .text "test-user-123")])
      [⟨"file", trialFile, bytes, "text/plain"⟩] 30
    say ("📊 Status: " ++ toString status)
    if status == 200 then
      say "✅ Upload successful!"
      return true
    say ("❌ Upload failed: " ++ text)
    return false) fun f => do
    say ("❌ Request error: " ++ f.message)
    return false

def testUpload : Script Bool := do
  sayAll ["\n🚀 Testing Complete Upload Flow", Text.repeated 35 "-"]
  requireWeb
  writeText trialFile "# Test file for upload\ndef test():\n    return 'success'\n"
  andFinally tryUpload do
    if ← isThere trialFile then removeFile trialFile

def program : Script Unit := do
  sayAll ["🔧 VibeCodeAuditor - Supabase Schema Cache Fix", Text.repeated 50 "="]
  awaitRefresh
  if ← test then
    say "\n✅ Schema cache fix verified!"
    if ← testUpload then
      sayAll ["\n🎉 ALL TESTS PASSED!", "The upload functionality should now work correctly."]
    else
      sayAll ["\n⚠️  Schema cache fixed, but upload still failing.",
        "Check server logs for additional issues."]
  else
    sayAll ["\n❌ Schema cache fix did not work.",
      "Please try refreshing the cache again or contact Supabase support."]

end SourceAudit.SchemaCache
