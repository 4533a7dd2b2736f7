import GuideMarkup.Activation
import GuideMarkup.CommandLine.Arguments
import GuideMarkup.CommandLine.Option
import GuideMarkup.CommandLine.Run
import GuideMarkup.Config.Basic
import GuideMarkup.Config.Packaged
import GuideMarkup.Coordinate.Literal
import GuideMarkup.Coordinate.Scan
import GuideMarkup.Data.Basic
import GuideMarkup.Data.Json
import GuideMarkup.Data.Way
import GuideMarkup.Double.Basic
import GuideMarkup.Double.Notation
import GuideMarkup.Gesture
import GuideMarkup.Guide
import GuideMarkup.Logging
import GuideMarkup.Main
import GuideMarkup.Markup.Basic
import GuideMarkup.Markup.Fragment
import GuideMarkup.Markup.Linked
import GuideMarkup.Moment
import GuideMarkup.Navigation
import GuideMarkup.Node.Basic
import GuideMarkup.Node.Data
import GuideMarkup.Node.Kind
import GuideMarkup.Numeral
import GuideMarkup.Outer.File
import GuideMarkup.Outer.Markup.Reader
import GuideMarkup.Outer.Markup.Reference
import GuideMarkup.Outer.Markup.Token
import GuideMarkup.Outer.Outline.Calendar
import GuideMarkup.Outer.Outline.Inside
import GuideMarkup.Outer.Outline.Kind
import GuideMarkup.Outer.Outline.Line
import GuideMarkup.Outer.Outline.Number
import GuideMarkup.Outer.Outline.Quoted
import GuideMarkup.Outer.Outline.Tag
import GuideMarkup.Outer.Outline.Token
import GuideMarkup.Outer.Outline.Tree
import GuideMarkup.Outer.Outline.Value
import GuideMarkup.Outer.Outline.Verbatim
import GuideMarkup.Path
import GuideMarkup.Progress
import GuideMarkup.Proofs.Applying
import GuideMarkup.Proofs.Availability
import GuideMarkup.Proofs.Configured
import GuideMarkup.Proofs.Contents
import GuideMarkup.Proofs.Coordinates
import GuideMarkup.Proofs.Correspondence
import GuideMarkup.Proofs.Directions
import GuideMarkup.Proofs.Disabling
import GuideMarkup.Proofs.Filling
import GuideMarkup.Proofs.Footprint
import GuideMarkup.Proofs.Gestures
import GuideMarkup.Proofs.Hiding
import GuideMarkup.Proofs.History
import GuideMarkup.Proofs.Images
import GuideMarkup.Proofs.Journey
import GuideMarkup.Proofs.JsonReader
import GuideMarkup.Proofs.LeadingIntegers
import GuideMarkup.Proofs.LineBreaks
import GuideMarkup.Proofs.Linking
import GuideMarkup.Proofs.Literals
import GuideMarkup.Proofs.Locality
import GuideMarkup.Proofs.Lockstep
import GuideMarkup.Proofs.Numbering
import GuideMarkup.Proofs.Occurrence
import GuideMarkup.Proofs.Overriding
import GuideMarkup.Proofs.Persistence
import GuideMarkup.Proofs.Precedence
import GuideMarkup.Proofs.Preceding
import GuideMarkup.Proofs.Printing
import GuideMarkup.Proofs.Protocol
import GuideMarkup.Proofs.Rebuilding
import GuideMarkup.Proofs.Recovery
import GuideMarkup.Proofs.Rescanning
import GuideMarkup.Proofs.RoundTrip
import GuideMarkup.Proofs.Scanning
import GuideMarkup.Proofs.Skeleton
import GuideMarkup.Proofs.Spelling
import GuideMarkup.Proofs.Spoofing
import GuideMarkup.Proofs.Stability
import GuideMarkup.Proofs.Tables
import GuideMarkup.Proofs.Targets
import GuideMarkup.Proofs.Toggling
import GuideMarkup.Proofs.Trust
import GuideMarkup.Proofs.Visit
import GuideMarkup.Proofs.Widening
import GuideMarkup.Render
import GuideMarkup.Rule.Basic
import GuideMarkup.Rule.Table
import GuideMarkup.Session
import GuideMarkup.Template.Basic
import GuideMarkup.Template.Calendar
import GuideMarkup.Template.Fill
import GuideMarkup.Template.Layout
import GuideMarkup.Template.Number
import GuideMarkup.Text.Blank
import GuideMarkup.Text.Lower
import GuideMarkup.Text.Quoted
import GuideMarkup.Text.Word
import GuideMarkup.Transform
import GuideMarkup.Url.Address
import GuideMarkup.Url.Trust
