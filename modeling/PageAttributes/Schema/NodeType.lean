/-
**The kinds of nodes on a page.**

Every attribute and every group can be restricted to some kinds of nodes. The kinds form a closed
set with a fixed order; a kind is known by its exact name.

* `NodeType.all` — every kind, in the fixed order;
* `NodeType.name`, `NodeType.ofName?` — the name of a kind, and the kind of a name.
-/

namespace PageAttributes

/-- A kind of node on a page. -/
inductive NodeType where
  | backgroundVideoWrapper
  | block
  | blockquote
  | body
  | formCheckboxWrapper
  | formCheckboxInput
  | container
  | column
  | commerceCartWrapper
  | commerceCartOpenLink
  | commerceCartOpenLinkIcon
  | dropdownLink
  | dropdownList
  | dropdownToggle
  | dropdownWrapper
  | dynamoEmpty
  | dynamoItem
  | dynamoList
  | dynamoWrapper
  | facebook
  | grid
  | htmlEmbed
  | heading
  | icon
  | image
  | formTextInput
  | formWrapper
  | formForm
  | formInlineLabel
  | formSuccessMessage
  | formErrorMessage
  | formBlockLabel
  | lineBreak
  | link
  | list
  | listItem
  | lightboxWrapper
  | mapWidget
  | navbarWrapper
  | navbarContainer
  | navbarBrand
  | navbarMenu
  | navbarLink
  | navbarButton
  | paragraph
  | formRadioWrapper
  | formRadioInput
  | formReCaptcha
  | richText
  | row
  | formSelect
  | searchButton
  | searchForm
  | searchInput
  | span
  | strong
  | symbol
  | pageSection
  | formButton
  | sliderWrapper
  | sliderMask
  | sliderSlide
  | sliderArrow
  | sliderNav
  | tabsWrapper
  | tabsMenu
  | tabsLink
  | tabsContent
  | tabsPane
  | formTextarea
  | twitter
  | video
  | youTubeVideo
deriving DecidableEq, Repr

namespace NodeType

/-- Every kind, in the fixed order. -/
def all : List NodeType :=
  [.backgroundVideoWrapper, .block, .blockquote, .body, .formCheckboxWrapper, .formCheckboxInput,
   .container, .column, .commerceCartWrapper, .commerceCartOpenLink, .commerceCartOpenLinkIcon,
   .dropdownLink, .dropdownList, .dropdownToggle, .dropdownWrapper, .dynamoEmpty, .dynamoItem,
   .dynamoList, .dynamoWrapper, .facebook, .grid, .htmlEmbed, .heading, .icon, .image,
   .formTextInput, .formWrapper, .formForm, .formInlineLabel, .formSuccessMessage,
   .formErrorMessage, .formBlockLabel, .lineBreak, .link, .list, .listItem, .lightboxWrapper,
   .mapWidget, .navbarWrapper, .navbarContainer, .navbarBrand, .navbarMenu, .navbarLink,
   .navbarButton, .paragraph, .formRadioWrapper, .formRadioInput, .formReCaptcha, .richText,
   .row, .formSelect, .searchButton, .searchForm, .searchInput, .span, .strong, .symbol,
   .pageSection, .formButton, .sliderWrapper, .sliderMask, .sliderSlide, .sliderArrow, .sliderNav,
   .tabsWrapper, .tabsMenu, .tabsLink, .tabsContent, .tabsPane, .formTextarea, .twitter, .video,
   .youTubeVideo]

/-- The name of a kind. -/
def name : NodeType → String
  | .backgroundVideoWrapper => "BackgroundVideoWrapper"
  | .block => "Block"
  | .blockquote => "Blockquote"
  | .body => "Body"
  | .formCheckboxWrapper => "FormCheckboxWrapper"
  | .formCheckboxInput => "FormCheckboxInput"
  | .container => "Container"
  | .column => "Column"
  | .commerceCartWrapper => "CommerceCartWrapper"
  | .commerceCartOpenLink => "CommerceCartOpenLink"
  | .commerceCartOpenLinkIcon => "CommerceCartOpenLinkIcon"
  | .dropdownLink => "DropdownLink"
  | .dropdownList => "DropdownList"
  | .dropdownToggle => "DropdownToggle"
  | .dropdownWrapper => "DropdownWrapper"
  | .dynamoEmpty => "DynamoEmpty"
  | .dynamoItem => "DynamoItem"
  | .dynamoList => "DynamoList"
  | .dynamoWrapper => "DynamoWrapper"
  | .facebook => "Facebook"
  | .grid => "Grid"
  | .htmlEmbed => "HtmlEmbed"
  | .heading => "Heading"
  | .icon => "Icon"
  | .image => "Image"
  | .formTextInput => "FormTextInput"
  | .formWrapper => "FormWrapper"
  | .formForm => "FormForm"
  | .formInlineLabel => "FormInlineLabel"
  | .formSuccessMessage => "FormSuccessMessage"
  | .formErrorMessage => "FormErrorMessage"
  | .formBlockLabel => "FormBlockLabel"
  | .lineBreak => "LineBreak"
  | .link => "Link"
  | .list => "List"
  | .listItem => "ListItem"
  | .lightboxWrapper => "LightboxWrapper"
  | .mapWidget => "MapWidget"
  | .navbarWrapper => "NavbarWrapper"
  | .navbarContainer => "NavbarContainer"
  | .navbarBrand => "NavbarBrand"
  | .navbarMenu => "NavbarMenu"
  | .navbarLink => "NavbarLink"
  | .navbarButton => "NavbarButton"
  | .paragraph => "Paragraph"
  | .formRadioWrapper => "FormRadioWrapper"
  | .formRadioInput => "FormRadioInput"
  | .formReCaptcha => "FormReCaptcha"
  | .richText => "RichText"
  | .row => "Row"
  | .formSelect => "FormSelect"
  | .searchButton => "SearchButton"
  | .searchForm => "SearchForm"
  | .searchInput => "SearchInput"
  | .span => "Span"
  | .strong => "Strong"
  | .symbol => "Symbol"
  | .pageSection => "Section"
  | .formButton => "FormButton"
  | .sliderWrapper => "SliderWrapper"
  | .sliderMask => "SliderMask"
  | .sliderSlide => "SliderSlide"
  | .sliderArrow => "SliderArrow"
  | .sliderNav => "SliderNav"
  | .tabsWrapper => "TabsWrapper"
  | .tabsMenu => "TabsMenu"
  | .tabsLink => "TabsLink"
  | .tabsContent => "TabsContent"
  | .tabsPane => "TabsPane"
  | .formTextarea => "FormTextarea"
  | .twitter => "Twitter"
  | .video => "Video"
  | .youTubeVideo => "YouTubeVideo"

/-- The kind of a name, if it is one; case matters. -/
def ofName? (name : String) : Option NodeType := all.find? fun kind => kind.name == name

/-- The place of a kind in the fixed order. -/
def position (kind : NodeType) : Nat := all.idxOf kind

end NodeType

end PageAttributes
