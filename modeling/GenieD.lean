import GenieD.Badge
import GenieD.Calendar
import GenieD.Catalogue
import GenieD.Commands
import GenieD.Drive
import GenieD.Front
import GenieD.Keychain
import GenieD.Localization
import GenieD.Multipart
import GenieD.Orphans
import GenieD.Paywall
import GenieD.Persistence
import GenieD.Placeholder
import GenieD.Presenting
import GenieD.PrivacyText
import GenieD.Process
import GenieD.Products
import GenieD.Quota
import GenieD.Reopening
import GenieD.RoundTrip
import GenieD.ServerTime
import GenieD.ShiftedClock
import GenieD.Speech
import GenieD.Titles
import GenieD.Tokens
import GenieD.TwoDevices
import GenieD.TypeWriter
