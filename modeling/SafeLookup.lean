import SafeLookup.Log.Record
import SafeLookup.Path.Parsed
import SafeLookup.Proofs.Accessor.Names
import SafeLookup.Proofs.Accessor.Steps
import SafeLookup.Proofs.Path.Canonical
import SafeLookup.Proofs.Path.Content
import SafeLookup.Proofs.Path.Key
import SafeLookup.Proofs.Path.Nothing
import SafeLookup.Proofs.Path.RoundTrip
import SafeLookup.Proofs.Path.Separator
import SafeLookup.Proofs.Session.Body
import SafeLookup.Proofs.Session.Escape
import SafeLookup.Proofs.Session.Fallback
import SafeLookup.Proofs.Session.Log
import SafeLookup.Proofs.Session.Message
import SafeLookup.Proofs.Session.Positions
import SafeLookup.Proofs.Session.Scope
import SafeLookup.Proofs.Settings.Environment
import SafeLookup.Proofs.Walk.Attributes
import SafeLookup.Proofs.Walk.Chain
import SafeLookup.Proofs.Walk.Compose
import SafeLookup.Proofs.Walk.Prune
import SafeLookup.Proofs.Walk.Raises
import SafeLookup.Proofs.Walk.Reserved
import SafeLookup.Session
