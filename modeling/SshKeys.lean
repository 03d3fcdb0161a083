import SshKeys.Arithmetic.Inverse
import SshKeys.Arithmetic.Lucas
import SshKeys.Arithmetic.OddPart
import SshKeys.Arithmetic.Pi
import SshKeys.Arithmetic.Power
import SshKeys.Arithmetic.Prime
import SshKeys.Arithmetic.Root
import SshKeys.Bytes
import SshKeys.Cipher.Aes
import SshKeys.Cipher.Blowfish
import SshKeys.Cipher.Chaining
import SshKeys.Cipher.Counter
import SshKeys.Cipher.Des
import SshKeys.Der
import SshKeys.Diagnostics
import SshKeys.Digest.Md5
import SshKeys.Digest.Prehashed
import SshKeys.Digest.Sha512
import SshKeys.Digest.Stretched
import SshKeys.Double
import SshKeys.Double.Shortest
import SshKeys.Dsa.Key
import SshKeys.Dsa.Signature
import SshKeys.Fault
import SshKeys.Integer.Framed
import SshKeys.Integer.Required
import SshKeys.Integer.Signed
import SshKeys.Key.Copy
import SshKeys.Key.Failure
import SshKeys.Key.Handle
import SshKeys.Key.Material
import SshKeys.Key.Signature
import SshKeys.Key.Type
import SshKeys.Key.Wire
import SshKeys.Passphrase
import SshKeys.Payload
import SshKeys.Pem.Armour
import SshKeys.Pem.Base64
import SshKeys.Pem.Body
import SshKeys.Pem.Encryption
import SshKeys.PrivateKey.Encoding
import SshKeys.PrivateKey.Loading
import SshKeys.PrivateKey.OpenSsh
import SshKeys.PrivateKey.PublicLine
import SshKeys.PrivateKey.Reading
import SshKeys.Proofs.Arithmetic.Inverse
import SshKeys.Proofs.Der
import SshKeys.Proofs.Dsa.Key
import SshKeys.Proofs.Integer.Framed
import SshKeys.Proofs.Key.Grammar
import SshKeys.Proofs.Key.RoundTrip
import SshKeys.Proofs.Key.Verification
import SshKeys.Proofs.Outcome
import SshKeys.Proofs.Payload.Items
import SshKeys.Proofs.PrivateKey.Encoding
import SshKeys.Proofs.PrivateKey.Forms
import SshKeys.Proofs.PrivateKey.Loading
import SshKeys.Proofs.PrivateKey.Reading
import SshKeys.Proofs.Rsa.Key
import SshKeys.Rsa.Key
import SshKeys.Rsa.Signature
import SshKeys.Scratch
import SshKeys.Session
import SshKeys.Text.Blank
import SshKeys.Text.Printable
import SshKeys.Text.Quoted
import SshKeys.Text.Safe
import SshKeys.Text.Template
import SshKeys.Value
import SshKeys.Value.Printer
import SshKeys.Proofs.PrivateKey.Asking
import SshKeys.Proofs.PrivateKey.Blanks
import SshKeys.Proofs.Key.Copy
import SshKeys.Proofs.Key.Signing
import SshKeys.Proofs.Arithmetic.Order
import SshKeys.Proofs.Key.Accelerators
import SshKeys.Key.Operation
import SshKeys.Proofs.Dsa.Signature
import SshKeys.Proofs.Key.DssSigning
import SshKeys.Proofs.PrivateKey.Checked
import SshKeys.Proofs.Key.Handles
import SshKeys.Proofs.Key.PublicHalf
import SshKeys.Proofs.Key.SignatureWire
import SshKeys.Proofs.PrivateKey.Consistency
import SshKeys.Proofs.Integer.Signed
import SshKeys.Proofs.Der.RoundTrip
import SshKeys.Proofs.Text.Blank
import SshKeys.Proofs.Pem.Base64
import SshKeys.Proofs.Pem.Armour
import SshKeys.Proofs.PrivateKey.Traditional
import SshKeys.Proofs.Pem.Detection
import SshKeys.Proofs.Diagnostics
import SshKeys.Proofs.PrivateKey.Detection
import SshKeys.Proofs.PrivateKey.Scratch
import SshKeys.Proofs.Text.Quoted
import SshKeys.Proofs.PrivateKey.Reporting
import SshKeys.Proofs.PrivateKey.Secrecy
import SshKeys.Proofs.Text.Codes
import SshKeys.Proofs.Payload.RoundTrip
import SshKeys.Proofs.Dsa.Nonce
import SshKeys.Proofs.Rsa.Digest
import SshKeys.Proofs.Rsa.Recovery
import SshKeys.Proofs.Key.Binding
import SshKeys.Proofs.Key.Reachable
import SshKeys.Proofs.Key.Containment
import SshKeys.Proofs.Dsa.Equation
import SshKeys.Proofs.Key.Acceptance
import SshKeys.Key.Request
import SshKeys.Proofs.Integer.Minimal
import SshKeys.Proofs.Integer.Canonical
import SshKeys.Proofs.Key.Restoring
import SshKeys.Proofs.Key.Gates
import SshKeys.Proofs.Payload.Consumption
import SshKeys.Proofs.Payload.Truncation
import SshKeys.Proofs.Key.PrefixFree
import SshKeys.Proofs.Key.Building
import SshKeys.Proofs.Key.Freeing
import SshKeys.Proofs.PrivateKey.LogLines
import SshKeys.Proofs.Diagnostics.Run
import SshKeys.Proofs.Session
import SshKeys.Proofs.Outcome.Traversal
import SshKeys.Proofs.Payload.Packing
import SshKeys.Proofs.Text.Masked
