/-!
# Names of characters: scripts

The names of the other scripts of the basic plane (Unicode 14), in the form that `CharacterName` reads.
-/

namespace Assay.Text

/-- The names of the other scripts of the basic plane. -/
def scriptNames : String :=
  "=A4D0aLISU_LETTER_BAmPAnHAmDAmTAnHAmGAmKAnHAmJAmCAnHAmDZAmTSAoHAmMAmNAmLAmSAmZHAnAmNGAmHAmXAmH
    HAmFAmWAmSHAmYAmGHAmAnEmEnUmImOmUnEnHmOEmTONE_MYA_TIrNA_POrMYA_CYAvBOvNAvJEUfPUNCTUATION_COMMA
    rFULL_STOPaVAI_SYLLABLE_EEpNnHEEnWEEqNnPEEnBHEEoEEnMBEEnKPEEnMGBEEnGBEEnFEEnVEEnTEEoHEEnDHEEpH
    EEnLEEnREEnDEEnNDEEnSEEoHEEnZEEoHEEnCEEnJEEnNJEEnYEEnKEEnNGGEEnGEEnMEEnNEEoYEEnIoNnHIpNnWIpNnP
    InBHIoInMBInKPInMGBInGBInFInVInTIoHInDHIpHInLInRInDInNDInSIoHInZIoHInCInJInNJInYInKInNGGInGInM
    InNIoYInAoNnNGANnHApNnWApNnPAnBHAoAnMBAnKPAqNnMGBAnGBAnFAnVAnTAoHAnDHApHAnLAnRAnDAnNDAnSAoHAnZ
    AoHAnCAnJAnNJAnYAnKApNnNGGAnGAnMAnNAoYAnOOpNnHOOnWOOqNnPOOnBHOOoOOnMBOOnKPOOnMGBOOnGBOOnFOOnVO
    OnTOOoHOOnDHOOpHOOnLOOnROOnDOOnNDOOnSOOoHOOnZOOoHOOnCOOnJOOnNJOOnYOOnKOOnNGGOOnGOOnMOOnNOOoYOO
    nUoNnHUpNnWUpNnPUnBHUoUnMBUnKPUnMGBUnGBUnFUnVUnTUoHUnDHUpHUnLUnRUnDUnNDUnSUoHUnZUoHUnCUnJUnNJU
    nYUnKUnNGGUnGUnMUnNUoYUnOoNnNGONnHOpNnWOpNnPOnBHOoOnMBOnKPOnMGBOnGBOqNnFOnVOnTOoHOnDHOpHOnLOnR
    OnDOnNDOnSOoHOnZOoHOnCOnJOnNJOnYOnKOnNGGOnGOnMOnNOoYOnEoNnNGENnHEpNnWEpNnPEnBHEoEnMBEnKPEqNnMG
    BEnGBEqNnFEnVEnTEoHEnDHEpHEnLEnREnDEnNDEnSEoHEnZEoHEnCEnJEnNJEnYEnKEnNGGErNnGEpNnMEnNEoYEoGnLE
    NGTHENEReCOMMAeFULL_STOPeQUESTION_MARKeSYLLABLE_NDOLE_FAtKAtSOOgMBOL_FEENGlKEENGlTINGlNIIlBANG
    lFAAlTAAlDANGmOONGlKUNGlTONGlDO-OlJONGeDIGIT_ZEROkONEkTWOlHREEkFOURlIVEkSIXlEVENkEIGHTkNINEeSY
    LLABLE_NDOLE_MAtDO=A640aCYRILLIC_CAPITAL_LETTER_ZEMLYAjSMALL_LETTER_ZEMLYAjCAPITAL_LETTER_DZEL
    OjSMALL_LETTER_DZELOjCAPITAL_LETTER_REVERSED_DZEjSMALL_LETTER_REVERSED_DZEjCAPITAL_LETTER_IOTA
    jSMALL_LETTER_IOTAjCAPITAL_LETTER_DJERVjSMALL_LETTER_DJERVjCAPITAL_LETTER_MONOGRAPH_UKjSMALL_L
    ETTER_MONOGRAPH_UKjCAPITAL_LETTER_BROAD_OMEGAjSMALL_LETTER_BROAD_OMEGAjCAPITAL_LETTER_NEUTRAL_
    YERjSMALL_LETTER_NEUTRAL_YERjCAPITAL_LETTER_YERU_WITH_BACK_YERjSMALL_LETTER_YERU_WITH_BACK_YER
    jCAPITAL_LETTER_IOTIFIED_YATjSMALL_LETTER_IOTIFIED_YATjCAPITAL_LETTER_REVERSED_YUjSMALL_LETTER
    _REVERSED_YUjCAPITAL_LETTER_IOTIFIED_AjSMALL_LETTER_IOTIFIED_AjCAPITAL_LETTER_CLOSED_LITTLE_YU
    SjSMALL_LETTER_CLOSED_LITTLE_YUSjCAPITAL_LETTER_BLENDED_YUSjSMALL_LETTER_BLENDED_YUSjCAPITAL_L
    ETTER_IOTIFIED_CLOSED_LITTLE_YUSjSMALL_LETTER_IOTIFIED_CLOSED_LITTLE_YUSjCAPITAL_LETTER_YNjSMA
    LL_LETTER_YNjCAPITAL_LETTER_REVERSED_TSEjSMALL_LETTER_REVERSED_TSEjCAPITAL_LETTER_SOFT_DEjSMAL
    L_LETTER_SOFT_DEjCAPITAL_LETTER_SOFT_ELjSMALL_LETTER_SOFT_ELjCAPITAL_LETTER_SOFT_EMjSMALL_LETT
    ER_SOFT_EMjCAPITAL_LETTER_MONOCULAR_OjSMALL_LETTER_MONOCULAR_OjCAPITAL_LETTER_BINOCULAR_OjSMAL
    L_LETTER_BINOCULAR_OjCAPITAL_LETTER_DOUBLE_MONOCULAR_OjSMALL_LETTER_DOUBLE_MONOCULAR_OjLETTER_
    MULTIOCULAR_ObOMBINING_CYRILLIC_VZMETtTEN_MILLIONS_SIGNtHUNDRED_MILLIONS_SIGNtTHOUSAND_MILLION
    S_SIGNaSLAVONIC_ASTERISKaCOMBINING_CYRILLIC_LETTER_UKRAINIAN_IEzbIzbYIzbUzbHARD_SIGNzbYERUzbSO
    FT_SIGNzbOMEGAtKAVYKAtPAYEROKbYRILLIC_KAVYKAjPAYEROKjCAPITAL_LETTER_DWEjSMALL_LETTER_DWEjCAPIT
    AL_LETTER_DZWEjSMALL_LETTER_DZWEjCAPITAL_LETTER_ZHWEjSMALL_LETTER_ZHWEjCAPITAL_LETTER_CCHEjSMA
    LL_LETTER_CCHEjCAPITAL_LETTER_DZZEjSMALL_LETTER_DZZEjCAPITAL_LETTER_TE_WITH_MIDDLE_HOOKjSMALL_
    LETTER_TE_WITH_MIDDLE_HOOKjCAPITAL_LETTER_TWEjSMALL_LETTER_TWEjCAPITAL_LETTER_TSWEjSMALL_LETTE
    R_TSWEjCAPITAL_LETTER_TSSEjSMALL_LETTER_TSSEjCAPITAL_LETTER_TCHEjSMALL_LETTER_TCHEjCAPITAL_LET
    TER_HWEjSMALL_LETTER_HWEjCAPITAL_LETTER_SHWEjSMALL_LETTER_SHWEjCAPITAL_LETTER_DOUBLE_OjSMALL_L
    ETTER_DOUBLE_OjCAPITAL_LETTER_CROSSED_OjSMALL_LETTER_CROSSED_OaMODIFIER_LETTER_CYRILLIC_HARD_S
    IGNzSOFT_SIGNaCOMBINING_CYRILLIC_LETTER_EFzbIOTIFIED_EaBAMUM_LETTER_AnKAnUnKUnEEnREEnTAEnOnNYI
    nInLAnPAnRIIpEEnLEEEEnMEEEEnTAAnNDAAoJAEMnMnSUUnMUnSHIIoIoHEUXoEUXnKYEEoETnNUAEoUoJUAEnYOQnSHU
    nYUQoAnNSHAnKEUXnPEUXnNJEEoTEEnPUEnWUEnPEEnFEEnRUnLUnMInNInREUXoAEnKENnNGKWAENpGApAnSHOnPUAEnF
    UoOMnWAnNAnLInPInLOQnKOnMBENnRENnMENoAnTInKInMOoBAAnTETnKPAnTENnNTUUnSAMBAnFAAMAEnKOVUUpGHOMgC
    OMBINING_MARK_KOQNDONvTUKWENTISgNJAEMLIgFULL_STOPgCOLONiMMAgSEMICOLONgQUESTION_MARK=A700aMODIF
    IER_LETTER_CHINESE_TONE_YIN_PINGzfANG_PINGzfIN_SHANGzfANG_SHANGzfIN_QUzfANG_QUzfIN_RUzfANG_RUq
    EXTRA-HIGH_DOTTED_TONE_BARqHIGH_DOTTED_TONE_BARqMID_DOTTED_TONE_BARqLOW_DOTTED_TONE_BARqEXTRA-
    LOW_DOTTED_TONE_BARwHIGH_DOTTED_LEFT-STEM_TONE_BARqHIGH_DOTTED_LEFT-STEM_TONE_BARqMID_DOTTED_L
    EFT-STEM_TONE_BARqLOW_DOTTED_LEFT-STEM_TONE_BARqEXTRA-LOW_DOTTED_LEFT-STEM_TONE_BARwHIGH_LEFT-
    STEM_TONE_BARqHIGH_LEFT-STEM_TONE_BARqMID_LEFT-STEM_TONE_BARqLOW_LEFT-STEM_TONE_BARqEXTRA-LOW_
    LEFT-STEM_TONE_BARqDOT_VERTICAL_BARuSLASHuHORIZONTAL_BARqLOWER_RIGHT_CORNER_ANGLEqRAISED_UP_AR
    ROWxDOWN_ARROWxEXCLAMATION_MARKxINVERTED_EXCLAMATION_MARKqLOW_INVERTED_EXCLAMATION_MARKqSTRESS
    _AND_HIGH_TONEzcLOW_TONEaLATIN_CAPITAL_LETTER_EGYPTOLOGICAL_ALEFgSMALL_LETTER_EGYPTOLOGICAL_AL
    EFgCAPITAL_LETTER_EGYPTOLOGICAL_AINgSMALL_LETTER_EGYPTOLOGICAL_AINgCAPITAL_LETTER_HENGgSMALL_L
    ETTER_HENGgCAPITAL_LETTER_TZgSMALL_LETTER_TZgCAPITAL_LETTER_TRESILLOgSMALL_LETTER_TRESILLOgCAP
    ITAL_LETTER_CUATRILLOgSMALL_LETTER_CUATRILLOgCAPITAL_LETTER_CUATRILLO_WITH_COMMAgSMALL_LETTER_
    CUATRILLO_WITH_COMMAgLETTER_SMALL_CAPITAL_FzcSgCAPITAL_LETTER_AAgSMALL_LETTER_AAgCAPITAL_LETTE
    R_AOgSMALL_LETTER_AOgCAPITAL_LETTER_AUgSMALL_LETTER_AUgCAPITAL_LETTER_AVgSMALL_LETTER_AVgCAPIT
    AL_LETTER_AV_WITH_HORIZONTAL_BARgSMALL_LETTER_AV_WITH_HORIZONTAL_BARgCAPITAL_LETTER_AYgSMALL_L
    ETTER_AYgCAPITAL_LETTER_REVERSED_C_WITH_DOTgSMALL_LETTER_REVERSED_C_WITH_DOTgCAPITAL_LETTER_K_
    WITH_STROKEgSMALL_LETTER_K_WITH_STROKEgCAPITAL_LETTER_K_WITH_DIAGONAL_STROKEgSMALL_LETTER_K_WI
    TH_DIAGONAL_STROKEgCAPITAL_LETTER_K_WITH_STROKE_AND_DIAGONAL_STROKEgSMALL_LETTER_K_WITH_STROKE
    _AND_DIAGONAL_STROKEgCAPITAL_LETTER_BROKEN_LgSMALL_LETTER_BROKEN_LgCAPITAL_LETTER_L_WITH_HIGH_
    STROKEgSMALL_LETTER_L_WITH_HIGH_STROKEgCAPITAL_LETTER_O_WITH_LONG_STROKE_OVERLAYgSMALL_LETTER_
    O_WITH_LONG_STROKE_OVERLAYgCAPITAL_LETTER_O_WITH_LOOPgSMALL_LETTER_O_WITH_LOOPgCAPITAL_LETTER_
    OOgSMALL_LETTER_OOgCAPITAL_LETTER_P_WITH_STROKE_THROUGH_DESCENDERgSMALL_LETTER_P_WITH_STROKE_T
    HROUGH_DESCENDERgCAPITAL_LETTER_P_WITH_FLOURISHgSMALL_LETTER_P_WITH_FLOURISHgCAPITAL_LETTER_P_
    WITH_SQUIRREL_TAILgSMALL_LETTER_P_WITH_SQUIRREL_TAILgCAPITAL_LETTER_Q_WITH_STROKE_THROUGH_DESC
    ENDERgSMALL_LETTER_Q_WITH_STROKE_THROUGH_DESCENDERgCAPITAL_LETTER_Q_WITH_DIAGONAL_STROKEgSMALL
    _LETTER_Q_WITH_DIAGONAL_STROKEgCAPITAL_LETTER_R_ROTUNDAgSMALL_LETTER_R_ROTUNDAgCAPITAL_LETTER_
    RUM_ROTUNDAgSMALL_LETTER_RUM_ROTUNDAgCAPITAL_LETTER_V_WITH_DIAGONAL_STROKEgSMALL_LETTER_V_WITH
    _DIAGONAL_STROKEgCAPITAL_LETTER_VYgSMALL_LETTER_VYgCAPITAL_LETTER_VISIGOTHIC_ZgSMALL_LETTER_VI
    SIGOTHIC_ZgCAPITAL_LETTER_THORN_WITH_STROKEgSMALL_LETTER_THORN_WITH_STROKEgCAPITAL_LETTER_THOR
    N_WITH_STROKE_THROUGH_DESCENDERgSMALL_LETTER_THORN_WITH_STROKE_THROUGH_DESCENDERgCAPITAL_LETTE
    R_VENDgSMALL_LETTER_VENDgCAPITAL_LETTER_ETgSMALL_LETTER_ETgCAPITAL_LETTER_ISgSMALL_LETTER_ISgC
    APITAL_LETTER_CONgSMALL_LETTER_CONaMODIFIER_LETTER_USaLATIN_SMALL_LETTER_DUMtLUMtMUMtNUMtRUMgL
    ETTER_SMALL_CAPITAL_RUMgSMALL_LETTER_TUMtUMgCAPITAL_LETTER_INSULAR_DgSMALL_LETTER_INSULAR_DgCA
    PITAL_LETTER_INSULAR_FgSMALL_LETTER_INSULAR_FgCAPITAL_LETTER_INSULAR_GvTURNED_INSULAR_GgSMALL_
    LETTER_TURNED_INSULAR_GgCAPITAL_LETTER_TURNED_LgSMALL_LETTER_TURNED_LgCAPITAL_LETTER_INSULAR_R
    gSMALL_LETTER_INSULAR_RgCAPITAL_LETTER_INSULAR_SgSMALL_LETTER_INSULAR_SgCAPITAL_LETTER_INSULAR
    _TgSMALL_LETTER_INSULAR_TaMODIFIER_LETTER_LOW_CIRCUMFLEX_ACCENTqCOLONqSHORT_EQUALS_SIGNaLATIN_
    CAPITAL_LETTER_SALTILLOgSMALL_LETTER_SALTILLOgCAPITAL_LETTER_TURNED_HgSMALL_LETTER_L_WITH_RETR
    OFLEX_HOOK_AND_BELTgLETTER_SINOLOGICAL_DOTgCAPITAL_LETTER_N_WITH_DESCENDERgSMALL_LETTER_N_WITH
    _DESCENDERgCAPITAL_LETTER_C_WITH_BARgSMALL_LETTER_C_WITH_BARzbPALATAL_HOOKtH_WITH_PALATAL_HOOK
    gCAPITAL_LETTER_B_WITH_FLOURISHgSMALL_LETTER_B_WITH_FLOURISHgCAPITAL_LETTER_F_WITH_STROKEgSMAL
    L_LETTER_F_WITH_STROKEgCAPITAL_LETTER_VOLAPUK_AEgSMALL_LETTER_VOLAPUK_AEgCAPITAL_LETTER_VOLAPU
    K_OEgSMALL_LETTER_VOLAPUK_OEgCAPITAL_LETTER_VOLAPUK_UEgSMALL_LETTER_VOLAPUK_UEgCAPITAL_LETTER_
    G_WITH_OBLIQUE_STROKEgSMALL_LETTER_G_WITH_OBLIQUE_STROKEgCAPITAL_LETTER_K_WITH_OBLIQUE_STROKEg
    SMALL_LETTER_K_WITH_OBLIQUE_STROKEgCAPITAL_LETTER_N_WITH_OBLIQUE_STROKEgSMALL_LETTER_N_WITH_OB
    LIQUE_STROKEgCAPITAL_LETTER_R_WITH_OBLIQUE_STROKEgSMALL_LETTER_R_WITH_OBLIQUE_STROKEgCAPITAL_L
    ETTER_S_WITH_OBLIQUE_STROKEgSMALL_LETTER_S_WITH_OBLIQUE_STROKEgCAPITAL_LETTER_H_WITH_HOOKvREVE
    RSED_OPEN_EvSCRIPT_GvL_WITH_BELTvSMALL_CAPITAL_IgLETTER_SMALL_CAPITAL_QgCAPITAL_LETTER_TURNED_
    KzdTvJ_WITH_CROSSED-TAILvCHIvBETAgSMALL_LETTER_BETAgCAPITAL_LETTER_OMEGAgSMALL_LETTER_OMEGAgCA
    PITAL_LETTER_U_WITH_STROKEgSMALL_LETTER_U_WITH_STROKEgCAPITAL_LETTER_GLOTTAL_AgSMALL_LETTER_GL
    OTTAL_AgCAPITAL_LETTER_GLOTTAL_IgSMALL_LETTER_GLOTTAL_IgCAPITAL_LETTER_GLOTTAL_UgSMALL_LETTER_
    GLOTTAL_UgCAPITAL_LETTER_OLD_POLISH_OgSMALL_LETTER_OLD_POLISH_OgCAPITAL_LETTER_ANGLICANA_WgSMA
    LL_LETTER_ANGLICANA_WgCAPITAL_LETTER_C_WITH_PALATAL_HOOKvS_WITH_HOOKvZ_WITH_PALATAL_HOOKvD_WIT
    H_SHORT_STROKE_OVERLAYgSMALL_LETTER_D_WITH_SHORT_STROKE_OVERLAYgCAPITAL_LETTER_S_WITH_SHORT_ST
    ROKE_OVERLAYgSMALL_LETTER_S_WITH_SHORT_STROKE_OVERLAY=A7D0gCAPITAL_LETTER_CLOSED_INSULAR_GgSMA
    LL_LETTER_CLOSED_INSULAR_G=A7D3tDOUBLE_THORN=A7D5zbWYNNgCAPITAL_LETTER_MIDDLE_SCOTS_SgSMALL_LE
    TTER_MIDDLE_SCOTS_SgCAPITAL_LETTER_SIGMOID_SgSMALL_LETTER_SIGMOID_S=A7F2aMODIFIER_LETTER_CAPIT
    AL_CyFyQaLATIN_CAPITAL_LETTER_REVERSED_HALF_HgSMALL_LETTER_REVERSED_HALF_HgEPIGRAPHIC_LETTER_S
    IDEWAYS_IaMODIFIER_LETTER_CAPITAL_H_WITH_STROKEqSMALL_LIGATURE_OEaLATIN_LETTER_SMALL_CAPITAL_T
    URNED_MgEPIGRAPHIC_LETTER_REVERSED_FziPyINVERTED_Mz_LONGAyARCHAIC_MaSYLOTI_NAGRI_LETTER_AuInSI
    GN_DVISVARAnLETTER_UuEuOnSIGN_HASANTAnLETTER_KOvHOuGOvHOnSIGN_ANUSVARAnLETTER_COvHOuJOvHOuTTOw
    HOuDDOwHOuTOvHOuDOvHOuNOuPOvHOuBOvHOuMOuROuLOuRROuSOuHOnVOWEL_SIGN_AyIyUyEyOOnPOETRY_MARK-1z2z
    3z4nSIGN_ALTERNATE_HASANTA=A830aNORTH_INDIC_FRACTION_ONE_QUARTERzHALFvTHREE_QUARTERSvONE_SIXTE
    ENTHzEIGHTHvTHREE_SIXTEENTHSmQUARTER_MARKmPLACEHOLDER_MARKmRUPEE_MARKmQUANTITY_MARK=A840aPHAGS
    -PA_LETTER_KArHAqGAqNGAqCArHAqJAqNYAqTArHAqDAqNAqPArHAqBAqMAqTSAsHAqDZAqWAqZHArAqSMALL_AqYAqRA
    qLAqSHArAqHAqAqIqUqEqOqQAqXAqFAqGGAqEEjSUBJOINED_LETTER_WAzbYAjLETTER_TTAsHAqDDAqNNAqALTERNATE
    _YAqVOICELESS_SHAvD_HAqASPIRATED_FAjSUBJOINED_LETTER_RAlPERFIXED_LETTER_RAjLETTER_CANDRABINDUj
    SINGLE_HEAD_MARKjDOUBLE_HEAD_MARKjMARK_SHADoDOUBLE_SHAD=A880aSAURASHTRA_SIGN_ANUSVARAqVISARGAl
    LETTER_AtAsItIsUtUsVOCALIC_RzcRzbLzcLsEtEsAIsOtOsAUsKAtHAsGAtHAsNGAsCAtHAsJAtHAsNYAsTTAuHAsDDA
    uHAsNNAsTAtHAsDAtHAsNAsPAtHAsBAtHAsMAsYAsRAsLAsVAsSHAtSAtAsHAsLLAlCONSONANT_SIGN_HAARUlVOWEL_S
    IGN_AAwIxIwUxUwVOCALIC_RzgRzfLzgLwExEwAIwOxOwAUlSIGN_VIRAMAqCANDRABINDU=A8CElDANDAmOUBLE_DANDA
    mIGIT_ZEROrONErTWOsHREErFOURsIVErSIXsEVENrEIGHTrNINE=A8E0aCOMBINING_DEVANAGARI_DIGIT_ZEROzcONE
    zcTWOzdHREEzcFOURzdIVEzcSIXzdEVENzcEIGHTzcNINEvLETTER_AzdUzdKAzdNAzdPAzdRAzdVIvSIGN_AVAGRAHAaD
    EVANAGARI_SIGN_SPACING_CANDRABINDUqCANDRABINDU_VIRAMAqDOUBLE_CANDRABINDU_VIRAMAqCANDRABINDU_TW
    OzeHREEzdAVAGRAHAqPUSHPIKAlGAP_FILLERlCARETlHEADSTROKElSIGN_SIDDHAMlJAIN_OMlLETTER_AYlVOWEL_SI
    GN_AYaKAYAH_LI_DIGIT_ZEROpONEpTWOqHREEpFOURqIVEpSIXqEVENpEIGHTpNINEjLETTER_KArHAqGAqNGAqSArHAq
    ZAqNYAqTAqHTAqNAqPArHAqMAqDAqBAqRAqYAqLAqWAqTHAqHAqVAqCAqAqOEqIqOOjVOWEL_UEpEpUpEEpOjTONE_PLOP
    HUoCALYAt_PLOPHUjSIGN_CWIoSHYAaREJANG_LETTER_KAoGAoNGAoTAoDAoNAoPAoBAoMAoCAoJAoNYAoSAoRAoLAoYA
    oWAoHAoMBAoNGGApDApYJAoAhVOWEL_SIGN_IsUsEsAIsOsAUsEUtAhCONSONANT_SIGN_NGwNwRwHhVIRAMA=A95FhSEC
    TION_MARKaHANGUL_CHOSEONG_TIKEUT-MIEUMxPIEUPxSIOSxCIEUCqRIEUL-KIYEOKwSSANGKIYEOKwTIKEUTwSSANGT
    IKEUTwMIEUMwPIEUPwSSANGPIEUPwKAPYEOUNPIEUPwSIOSwCIEUCwKHIEUKHqMIEUM-KIYEOKwTIKEUTwSIOSqPIEUP-S
    IOS-THIEUTHwKHIEUKHwHIEUHqSSANGSIOS-PIEUPqIEUNG-RIEULwHIEUHqSSANGCIEUC-HIEUHvTHIEUTHqPHIEUPH-H
    IEUHqHIEUH-SIOSqSSANGYEORINHIEUH=A980aJAVANESE_SIGN_PANYANGGAoCECAKoLAYARoWIGNYANjLETTER_AqI_K
    AWIqIrIqUqPA_CEREKqNGA_LELETz_RASWADIqEqAIqOqKAs_SASAKtMURDAqGAs_MURDAqNGAqCAs_MURDAqJAqNYA_MU
    RDAqJA_MAHAPRANAqNYAqTTAt_MAHAPRANAqDDAt_MAHAPRANAqNA_MURDAqTAs_MURDAqDAs_MAHAPRANAqNAqPAs_MUR
    DAqBAs_MURDAqMAqYAqRAs_AGUNGqLAqWAqSA_MURDAuAHAPRANArAqHAjSIGN_CECAK_TELUjVOWEL_SIGN_TARUNGvOL
    ONGuWULUy_MELIKuSUKUy_MENDUTuTALINGuDIRGA_MUREuPEPETjCONSONANT_SIGN_KERETyPENGKALyCAKRAjPANGKO
    NjLEFT_RERENGGANjRIGHT_RERENGGANjPADA_ANDAPoMADYAoLUHURoWINDUoPANGKAToLINGSApUNGSIoADEGs_ADEGo
    PISELEHjTURNED_PADA_PISELEH=A9CFjPANGRANGKEPjDIGIT_ZEROpONEpTWOqHREEpFOURqIVEpSIXqEVENpEIGHTpN
    INE=A9DEjPADA_TIRTA_TUMETESoISEN-ISENaMYANMAR_LETTER_SHAN_GHAuCHAuJHAuNNAuBHAiSIGN_SHAN_SAWiMO
    DIFIER_LETTER_SHAN_REDUPLICATIONiLETTER_TAI_LAING_NYAzFAzGAzbHAzJAzbHAzDDAzcHAzNNAiTAI_LAING_D
    IGIT_ZEROyONEyTWOzHREEyFOURzIVEySIXzEVENyEIGHTyNINEiLETTER_TAI_LAING_LLAzDAzbHAzBAzbHA=AA00aCH
    AM_LETTER_AmImUmEmAImOmKAnHAmGAnHAmNGUEoAmCHAoHAmJAnHAmNHUEoAoJAmTAnHAmDAnHAmNUEnAmDDAmPAnPAnH
    AmBAnHAmMUEnAmBBAmYAmRAmLAmVAmSSAnAmHAfVOWEL_SIGN_AAqIrIqEIqUqOEqOqAIrUqUEfCONSONANT_SIGN_YAuR
    AuLAuWA=AA40fLETTER_FINAL_KsGsNGfCONSONANT_SIGN_FINAL_NGfLETTER_FINAL_CHsTsNsPsYsRsLsSSfCONSON
    ANT_SIGN_FINAL_MzbH=AA50fDIGIT_ZEROlONElTWOmHREElFOURmIVElSIXmEVENlEIGHTlNINE=AA5CfPUNCTUATION
    _SPIRALrDANDAsOUBLE_DANDArTRIPLE_DANDAaMYANMAR_LETTER_KHAMTI_GAwCAxHAwJAxHAwNYAwTTAyHAwDDAyHAx
    HAwNAwSAwHAxHAwFAiMODIFIER_LETTER_KHAMTI_REDUPLICATIONiLETTER_KHAMTI_XAwZAwRAjOGOGRAM_KHAMTI_O
    AYyQNyHMiSYMBOL_AITON_EXCLAMATIONvONEvTWOiLETTER_AITON_RAiSIGN_PAO_KAREN_TONEnTAI_LAING_TONE-2
    zd5iLETTER_SHWE_PALAUNG_CHAzdSHAaTAI_VIET_LETTER_LOW_KOqHIGH_KOqLOW_KHOqHIGH_KHOqLOW_KHHOqHIGH
    _KHHOqLOW_GOqHIGH_GOqLOW_NGOqHIGH_NGOqLOW_COqHIGH_COqLOW_CHOqHIGH_CHOqLOW_SOqHIGH_SOqLOW_NYOqH
    IGH_NYOqLOW_DOqHIGH_DOqLOW_TOqHIGH_TOqLOW_THOqHIGH_THOqLOW_NOqHIGH_NOqLOW_BOqHIGH_BOqLOW_POqHI
    GH_POqLOW_PHOqHIGH_PHOqLOW_FOqHIGH_FOqLOW_MOqHIGH_MOqLOW_YOqHIGH_YOqLOW_ROqHIGH_ROqLOW_LOqHIGH
    _LOqLOW_VOqHIGH_VOqLOW_HOqHIGH_HOqLOW_OqHIGH_OjMAI_KANGjVOWEL_AApIpUEpUpEpOjMAI_KHITjVOWEL_IAp
    UEAqApAUEqYqNqMjTONE_MAI_EKsNUENGsTHOsSONG=AADBjSYMBOL_KONqNUENGqSAMqHO_HOIqKOI_KOIaMEETEI_MAY
    EK_LETTER_EuOuCHAuNYAuTTAwHAuDDAwHAuNNAuSHAvSAnVOWEL_SIGN_IIyUUyAAIzUzAUnCHEIKHANnAHANG_KHUDAM
    oNJInSYLLABLE_REPETITION_MARKnWORD_REPETITION_MARKnVOWEL_SIGN_VISARGAoIRAMA=AB01aETHIOPIC_SYLL
    ABLE_TTHUvIvAAvEEvEvO=AB09sDDHUvIvAAvEEvEvO=AB11tZUuIuAAuEEuEuO=AB20sCCHHAwUwIwAAwEEwEwO=AB28s
    BBAuUuIuAAuEEuEuO=AB30aLATIN_SMALL_LETTER_BARRED_ALPHAtA_REVERSED-SCHWAtBLACKLETTER_EuARRED_Et
    E_WITH_FLOURISHtLENIS_FtSCRIPT_G_WITH_CROSSED-TAILtL_WITH_INVERTED_LAZY_SzbDOUBLE_MIDDLE_TILDE
    zbMIDDLE_RINGtM_WITH_CROSSED-TAILtN_WITH_CROSSED-TAILtENG_WITH_CROSSED-TAILtBLACKLETTER_Ozh_WI
    TH_STROKEtOPEN_O_WITH_STROKEtINVERTED_OEtTURNED_OE_WITH_STROKEzjHORIZONTAL_STROKEzc_OPEN-Ozj_W
    ITH_STROKEtSTIRRUP_RgLETTER_SMALL_CAPITAL_R_WITH_RIGHT_LEGgSMALL_LETTER_R_WITHOUT_HANDLEtDOUBL
    E_RtR_WITH_CROSSED-TAILtDOUBLE_R_WITH_CROSSED-TAILtSCRIPT_Rzc_WITH_RINGtBASELINE_ESHtU_WITH_SH
    ORT_RIGHT_LEGvBAR_WITH_SHORT_RIGHT_LEGuItTURNED_UItU_WITH_LEFT_HOOKtCHIw_WITH_LOW_RIGHT_RINGzh
    LEFT_SERIFtX_WITH_LOW_RIGHT_RINGzdNG_LEFT_LEGzo_AND_LOW_RIGHT_RINGzpWITH_SERIFtY_WITH_SHORT_RI
    GHT_LEGaMODIFIER_BREVE_WITH_INVERTED_BREVEjLETTER_SMALL_HENGwL_WITH_INVERTED_LAZY_SzeMIDDLE_TI
    LDEwU_WITH_LEFT_HOOKaLATIN_SMALL_LETTER_SAKHA_YATtIOTIFIED_EtOPEN_OEtUOtINVERTED_ALPHAaGREEK_L
    ETTER_SMALL_CAPITAL_OMEGAaLATIN_SMALL_LETTER_DZ_DIGRAPH_WITH_RETROFLEX_HOOKtTS_DIGRAPH_WITH_RE
    TROFLEX_HOOKuURNED_R_WITH_MIDDLE_TILDEaMODIFIER_LETTER_SMALL_TURNED_WqLEFT_TACKqRIGHT_TACK=AB7
    0aCHEROKEE_SMALL_LETTER_AwEwIwOwUwVwGAwKAwGExIxOxUxVwHAxExIxOxUxVwLAxExIxOxUxVwMAxExIxOxUwNAwH
    NAwNAHxExIxOxUxVwQUAyEyIyOyUyVwSAwSxExIxOxUxVwDAwTAwDEwTEwDIwTIwDOxUxVxLAwTLAyEyIyOyUyVxSAyEyI
    yOyUyVwWAxExIxOxUxVwYAaMEETEI_MAYEK_LETTER_KOKuSAMuLAIuMITuPAuNAuCHILuTILuKHOUuNGOUuTHOUuWAIuY
    ANGuHUKuUNuIuPHAMuATIYAuGOKuJHAMuRAIuBAuJILuDILuGHOUuDHOUuBHAMuKOK_LONSUMuLAI_LONSUMuMIT_LONSU
    MuPA_LONSUMuNA_LONSUMuTIL_LONSUMuNGOU_LONSUMuI_LONSUMnVOWEL_SIGN_ONAPyINAPyANAPyYENAPySOUNAPyU
    NAPyCHEINAPyNUNGnCHEIKHEInLUM_IYEKnAPUN_IYEK=ABF0nDIGIT_ZEROtONEtTWOuHREEtFOURuIVEtSIXuEVENtEI
    GHTtNINE=D7B0aHANGUL_JUNGSEONG_O-YEOtO-IrYO-AvEuEOrU-YEOtI-IrYU-AEuOrEU-AuEOuEuOrI-YA-OvEuEOuE
    tO-ItYOuUtIrARAEA-AxE=D7CBiONGSEONG_NIEUN-RIEULxCHIEUCHrSSANGTIKEUTzd-PIEUPrTIKEUT-PIEUPySIOSz
    d-KIYEOKyCIEUCzHIEUCHyTHIEUTHrRIEUL-SSANGKIYEOKxKIYEOK-HIEUHrSSANGRIEUL-KHIEUKHrRIEUL-MIEUM-HI
    EUHxPIEUP-TIKEUTzePHIEUPHxYESIEUNGzORINHIEUH-HIEUHrKAPYEOUNRIEULrMIEUM-NIEUNxSSANGNIEUNrSSANGM
    IEUMrMIEUM-PIEUP-SIOSxCIEUCrPIEUP-TIKEUTxRIEUL-PHIEUPHxMIEUMrSSANGPIEUPrPIEUP-SIOS-TIKEUTxCIEU
    CyHIEUCHrSIOS-MIEUMwKAPYEOUNPIEUPsSANGSIOS-KIYEOKzcTIKEUTsIOS-PANSIOSwCIEUCxHIEUCHwTHIEUTHwHIE
    UHrPANSIOS-PIEUPzKAPYEOUNPIEUPrYESIEUNG-MIEUMzbHIEUHrCIEUC-PIEUPxSSANGPIEUPrSSANGCIEUCrPHIEUPH
    -SIOSzTHIEUTH=F900aCJK_COMPATIBILITY_IDEOGRAPH-F900zg1zg2zg3zg4zg5zg6zg7zg8zg9zgAzgBzgCzgDzgEz
    gFzf10zg1zg2zg3zg4zg5zg6zg7zg8zg9zgAzgBzgCzgDzgEzgFzf20zg1zg2zg3zg4zg5zg6zg7zg8zg9zgAzgBzgCzgD
    zgEzgFzf30zg1zg2zg3zg4zg5zg6zg7zg8zg9zgAzgBzgCzgDzgEzgFzf40zg1zg2zg3zg4zg5zg6zg7zg8zg9zgAzgBzg
    CzgDzgEzgFzf50zg1zg2zg3zg4zg5zg6zg7zg8zg9zgAzgBzgCzgDzgEzgFzf60zg1zg2zg3zg4zg5zg6zg7zg8zg9zgAz
    gBzgCzgDzgEzgFzf70zg1zg2zg3zg4zg5zg6zg7zg8zg9zgAzgBzgCzgDzgEzgFzf80zg1zg2zg3zg4zg5zg6zg7zg8zg9
    zgAzgBzgCzgDzgEzgFzf90zg1zg2zg3zg4zg5zg6zg7zg8zg9zgAzgBzgCzgDzgEzgFzfA0zg1zg2zg3zg4zg5zg6zg7zg
    8zg9zgAzgBzgCzgDzgEzgFzfB0zg1zg2zg3zg4zg5zg6zg7zg8zg9zgAzgBzgCzgDzgEzgFzfC0zg1zg2zg3zg4zg5zg6z
    g7zg8zg9zgAzgBzgCzgDzgEzgFzfD0zg1zg2zg3zg4zg5zg6zg7zg8zg9zgAzgBzgCzgDzgEzgFzfE0zg1zg2zg3zg4zg5
    zg6zg7zg8zg9zgAzgBzgCzgDzgEzgFzfF0zg1zg2zg3zg4zg5zg6zg7zg8zg9zgAzgBzgCzgDzgEzgFzeA00zg1zg2zg3z
    g4zg5zg6zg7zg8zg9zgAzgBzgCzgDzgEzgFzf10zg1zg2zg3zg4zg5zg6zg7zg8zg9zgAzgBzgCzgDzgEzgFzf20zg1zg2
    zg3zg4zg5zg6zg7zg8zg9zgAzgBzgCzgDzgEzgFzf30zg1zg2zg3zg4zg5zg6zg7zg8zg9zgAzgBzgCzgDzgEzgFzf40zg
    1zg2zg3zg4zg5zg6zg7zg8zg9zgAzgBzgCzgDzgEzgFzf50zg1zg2zg3zg4zg5zg6zg7zg8zg9zgAzgBzgCzgDzgEzgFzf
    60zg1zg2zg3zg4zg5zg6zg7zg8zg9zgAzgBzgCzgD=FA70zf70zg1zg2zg3zg4zg5zg6zg7zg8zg9zgAzgBzgCzgDzgEzg
    Fzf80zg1zg2zg3zg4zg5zg6zg7zg8zg9zgAzgBzgCzgDzgEzgFzf90zg1zg2zg3zg4zg5zg6zg7zg8zg9zgAzgBzgCzgDz
    gEzgFzfA0zg1zg2zg3zg4zg5zg6zg7zg8zg9zgAzgBzgCzgDzgEzgFzfB0zg1zg2zg3zg4zg5zg6zg7zg8zg9zgAzgBzgC
    zgDzgEzgFzfC0zg1zg2zg3zg4zg5zg6zg7zg8zg9zgAzgBzgCzgDzgEzgFzfD0zg1zg2zg3zg4zg5zg6zg7zg8zg9=FB00
    aLATIN_SMALL_LIGATURE_FFwIwLwFIxLvLONG_S_TvST=FB13aARMENIAN_SMALL_LIGATURE_MEN_NOWzdECHzdINIyV
    EW_NOWyMEN_XEH=FB1DaHEBREW_LETTER_YOD_WITH_HIRIQhPOINT_JUDEO-SPANISH_VARIKAhLIGATURE_YIDDISH_Y
    OD_YOD_PATAHiETTER_ALTERNATIVE_AYINoWIDE_ALEFtDALETtHEtKAFtLAMEDtFINAL_MEMtRESHtTAVoALTERNATIV
    E_PLUS_SIGNoSHIN_WITH_SHIN_DOTzIN_DOTyDAGESH_AND_SHIN_DOTzlIN_DOToALEF_WITH_PATAHyQAMATSyMAPIQ
    oBET_WITH_DAGESHoGIMEL_WITH_DAGESHoDALET_WITH_DAGESHoHE_WITH_MAPIQoVAV_WITH_DAGESHoZAYIN_WITH_
    DAGESH=FB38oTET_WITH_DAGESHoYOD_WITH_DAGESHoFINAL_KAF_WITH_DAGESHoKAF_WITH_DAGESHoLAMED_WITH_D
    AGESH=FB3EoMEM_WITH_DAGESH=FB40oNUN_WITH_DAGESHoSAMEKH_WITH_DAGESH=FB43oFINAL_PE_WITH_DAGESHoP
    E_WITH_DAGESH=FB46oTSADI_WITH_DAGESHoQOF_WITH_DAGESHoRESH_WITH_DAGESHoSHIN_WITH_DAGESHoTAV_WIT
    H_DAGESHoVAV_WITH_HOLAMoBET_WITH_RAFEoKAF_WITH_RAFEoPE_WITH_RAFEiIGATURE_ALEF_LAMEDaARABIC_LET
    TER_ALEF_WASLA_ISOLATED_FORMzFINAL_FORMoBEEH_ISOLATED_FORMtFINAL_FORMtINITIAL_FORMtMEDIAL_FORM
    oPEH_ISOLATED_FORMsFINAL_FORMsINITIAL_FORMsMEDIAL_FORMoBEHEH_ISOLATED_FORMuFINAL_FORMuINITIAL_
    FORMuMEDIAL_FORMoTTEHEH_ISOLATED_FORMvFINAL_FORMvINITIAL_FORMvMEDIAL_FORMpEHEH_ISOLATED_FORMuF
    INAL_FORMuINITIAL_FORMuMEDIAL_FORMpTEH_ISOLATED_FORMtFINAL_FORMtINITIAL_FORMtMEDIAL_FORMoVEH_I
    SOLATED_FORMsFINAL_FORMsINITIAL_FORMsMEDIAL_FORMoPEHEH_ISOLATED_FORMuFINAL_FORMuINITIAL_FORMuM
    EDIAL_FORMoDYEH_ISOLATED_FORMtFINAL_FORMtINITIAL_FORMtMEDIAL_FORMoNYEH_ISOLATED_FORMtFINAL_FOR
    MtINITIAL_FORMtMEDIAL_FORMoTCHEH_ISOLATED_FORMuFINAL_FORMuINITIAL_FORMuMEDIAL_FORMtEH_ISOLATED
    _FORMwFINAL_FORMwINITIAL_FORMwMEDIAL_FORMoDDAHAL_ISOLATED_FORMvFINAL_FORMpAHAL_ISOLATED_FORMuF
    INAL_FORMpUL_ISOLATED_FORMsFINAL_FORMpDAL_ISOLATED_FORMtFINAL_FORMoJEH_ISOLATED_FORMsFINAL_FOR
    MoRREH_ISOLATED_FORMtFINAL_FORMoKEHEH_ISOLATED_FORMuFINAL_FORMuINITIAL_FORMuMEDIAL_FORMoGAF_IS
    OLATED_FORMsFINAL_FORMsINITIAL_FORMsMEDIAL_FORMpUEH_ISOLATED_FORMtFINAL_FORMtINITIAL_FORMtMEDI
    AL_FORMoNGOEH_ISOLATED_FORMuFINAL_FORMuINITIAL_FORMuMEDIAL_FORMpOON_GHUNNA_ISOLATED_FORMzbFINA
    L_FORMoRNOON_ISOLATED_FORMuFINAL_FORMuINITIAL_FORMuMEDIAL_FORMoHEH_WITH_YEH_ABOVE_ISOLATED_FOR
    MziFINAL_FORMsGOAL_ISOLATED_FORMxFINAL_FORMxINITIAL_FORMxMEDIAL_FORMsDOACHASHMEE_ISOLATED_FORM
    zfFINAL_FORMzfINITIAL_FORMzfMEDIAL_FORMoYEH_BARREE_ISOLATED_FORMzFINAL_FORMzWITH_HAMZA_ABOVE_I
    SOLATED_FORMzrFINAL_FORMhSYMBOL_DOT_ABOVEsBELOWoTWO_DOTS_ABOVExBELOWpHREE_DOTS_ABOVEzBELOWzPOI
    NTING_DOWNWARDS_ABOVEztBELOWoFOUR_DOTS_ABOVEyBELOWoDOUBLE_VERTICAL_BAR_BELOWoTWO_DOTS_VERTICAL
    LY_ABOVEzjBELOWoRINGoSMALL_TAH_ABOVEyBELOWoWASLA_ABOVE=FBD3hLETTER_NG_ISOLATED_FORMrFINAL_FORM
    rINITIAL_FORMrMEDIAL_FORMoU_ISOLATED_FORMqFINAL_FORMoOE_ISOLATED_FORMrFINAL_FORMoYU_ISOLATED_F
    ORMrFINAL_FORMoU_WITH_HAMZA_ABOVE_ISOLATED_FORMoVE_ISOLATED_FORMrFINAL_FORMoKIRGHIZ_OE_ISOLATE
    D_FORMzFINAL_FORMwYU_ISOLATED_FORMzFINAL_FORMoE_ISOLATED_FORMqFINAL_FORMqINITIAL_FORMqMEDIAL_F
    ORMoUIGHUR_KAZAKH_KIRGHIZ_ALEF_MAKSURA_INITIAL_FORMzyMEDIAL_FORMiIGATURE_YEH_WITH_HAMZA_ABOVE_
    WITH_ALEF_ISOLATED_FORMzwFINAL_FORMzsE_ISOLATED_FORMzuFINAL_FORMzrWAW_ISOLATED_FORMzvFINAL_FOR
    MzrU_ISOLATED_FORMztFINAL_FORMzrOE_ISOLATED_FORMzuFINAL_FORMzrYU_ISOLATED_FORMzuFINAL_FORMzrE_
    ISOLATED_FORMztFINAL_FORMztINITIAL_FORMqUIGHUR_KIRGHIZ_YEH_WITH_HAMZA_ABOVE_WITH_ALEF_MAKSURA_
    ISOLATED_FORMzzuFINAL_FORMzzuINITIAL_FORMiETTER_FARSI_YEH_ISOLATED_FORMyFINAL_FORMyINITIAL_FOR
    MyMEDIAL_FORMiIGATURE_YEH_WITH_HAMZA_ABOVE_WITH_JEEM_ISOLATED_FORMzrHAH_ISOLATED_FORMzrMEEM_IS
    OLATED_FORMzrALEF_MAKSURA_ISOLATED_FORMzrYEH_ISOLATED_FORMqBEH_WITH_JEEM_ISOLATED_FORMzHAH_ISO
    LATED_FORMzKHAH_ISOLATED_FORMzMEEM_ISOLATED_FORMzALEF_MAKSURA_ISOLATED_FORMzYEH_ISOLATED_FORMq
    TEH_WITH_JEEM_ISOLATED_FORMzHAH_ISOLATED_FORMzKHAH_ISOLATED_FORMzMEEM_ISOLATED_FORMzALEF_MAKSU
    RA_ISOLATED_FORMzYEH_ISOLATED_FORMrHEH_WITH_JEEM_ISOLATED_FORMzbMEEM_ISOLATED_FORMzbALEF_MAKSU
    RA_ISOLATED_FORMzbYEH_ISOLATED_FORMqJEEM_WITH_HAH_ISOLATED_FORMzbMEEM_ISOLATED_FORMqHAH_WITH_J
    EEM_ISOLATED_FORMzMEEM_ISOLATED_FORMqKHAH_WITH_JEEM_ISOLATED_FORMzbHAH_ISOLATED_FORMzbMEEM_ISO
    LATED_FORMqSEEN_WITH_JEEM_ISOLATED_FORMzbHAH_ISOLATED_FORMzbKHAH_ISOLATED_FORMzbMEEM_ISOLATED_
    FORMrAD_WITH_HAH_ISOLATED_FORMzMEEM_ISOLATED_FORMqDAD_WITH_JEEM_ISOLATED_FORMzHAH_ISOLATED_FOR
    MzKHAH_ISOLATED_FORMzMEEM_ISOLATED_FORMqTAH_WITH_HAH_ISOLATED_FORMzMEEM_ISOLATED_FORMqZAH_WITH
    _MEEM_ISOLATED_FORMqAIN_WITH_JEEM_ISOLATED_FORMzMEEM_ISOLATED_FORMqGHAIN_WITH_JEEM_ISOLATED_FO
    RMzcMEEM_ISOLATED_FORMqFEH_WITH_JEEM_ISOLATED_FORMzHAH_ISOLATED_FORMzKHAH_ISOLATED_FORMzMEEM_I
    SOLATED_FORMzALEF_MAKSURA_ISOLATED_FORMzYEH_ISOLATED_FORMqQAF_WITH_HAH_ISOLATED_FORMzMEEM_ISOL
    ATED_FORMzALEF_MAKSURA_ISOLATED_FORMzYEH_ISOLATED_FORMqKAF_WITH_ALEF_ISOLATED_FORMzJEEM_ISOLAT
    ED_FORMzHAH_ISOLATED_FORMzKHAH_ISOLATED_FORMzLAM_ISOLATED_FORMzMEEM_ISOLATED_FORMzALEF_MAKSURA
    _ISOLATED_FORMzYEH_ISOLATED_FORMqLAM_WITH_JEEM_ISOLATED_FORMzHAH_ISOLATED_FORMzKHAH_ISOLATED_F
    ORMzMEEM_ISOLATED_FORMzALEF_MAKSURA_ISOLATED_FORMzYEH_ISOLATED_FORMqMEEM_WITH_JEEM_ISOLATED_FO
    RMzbHAH_ISOLATED_FORMzbKHAH_ISOLATED_FORMzbMEEM_ISOLATED_FORMzbALEF_MAKSURA_ISOLATED_FORMzbYEH
    _ISOLATED_FORMqNOON_WITH_JEEM_ISOLATED_FORMzbHAH_ISOLATED_FORMzbKHAH_ISOLATED_FORMzbMEEM_ISOLA
    TED_FORMzbALEF_MAKSURA_ISOLATED_FORMzbYEH_ISOLATED_FORMqHEH_WITH_JEEM_ISOLATED_FORMzMEEM_ISOLA
    TED_FORMzALEF_MAKSURA_ISOLATED_FORMzYEH_ISOLATED_FORMqYEH_WITH_JEEM_ISOLATED_FORMzHAH_ISOLATED
    _FORMzKHAH_ISOLATED_FORMzMEEM_ISOLATED_FORMzALEF_MAKSURA_ISOLATED_FORMzYEH_ISOLATED_FORMqTHAL_
    WITH_SUPERSCRIPT_ALEF_ISOLATED_FORMqREH_WITH_SUPERSCRIPT_ALEF_ISOLATED_FORMqALEF_MAKSURA_WITH_
    SUPERSCRIPT_ALEF_ISOLATED_FORMqSHADDA_WITH_DAMMATAN_ISOLATED_FORMzdKASRATAN_ISOLATED_FORMzdFAT
    HA_ISOLATED_FORMzdDAMMA_ISOLATED_FORMzdKASRA_ISOLATED_FORMzdSUPERSCRIPT_ALEF_ISOLATED_FORMqYEH
    _WITH_HAMZA_ABOVE_WITH_REH_FINAL_FORMzrZAIN_FINAL_FORMzrMEEM_FINAL_FORMzrNOON_FINAL_FORMzrALEF
    _MAKSURA_FINAL_FORMzrYEH_FINAL_FORMqBEH_WITH_REH_FINAL_FORMzZAIN_FINAL_FORMzMEEM_FINAL_FORMzNO
    ON_FINAL_FORMzALEF_MAKSURA_FINAL_FORMzYEH_FINAL_FORMqTEH_WITH_REH_FINAL_FORMzZAIN_FINAL_FORMzM
    EEM_FINAL_FORMzNOON_FINAL_FORMzALEF_MAKSURA_FINAL_FORMzYEH_FINAL_FORMrHEH_WITH_REH_FINAL_FORMz
    bZAIN_FINAL_FORMzbMEEM_FINAL_FORMzbNOON_FINAL_FORMzbALEF_MAKSURA_FINAL_FORMzbYEH_FINAL_FORMqFE
    H_WITH_ALEF_MAKSURA_FINAL_FORMzYEH_FINAL_FORMqQAF_WITH_ALEF_MAKSURA_FINAL_FORMzYEH_FINAL_FORMq
    KAF_WITH_ALEF_FINAL_FORMzLAM_FINAL_FORMzMEEM_FINAL_FORMzALEF_MAKSURA_FINAL_FORMzYEH_FINAL_FORM
    qLAM_WITH_MEEM_FINAL_FORMzALEF_MAKSURA_FINAL_FORMzYEH_FINAL_FORMqMEEM_WITH_ALEF_FINAL_FORMzbME
    EM_FINAL_FORMqNOON_WITH_REH_FINAL_FORMzbZAIN_FINAL_FORMzbMEEM_FINAL_FORMzbNOON_FINAL_FORMzbALE
    F_MAKSURA_FINAL_FORMzbYEH_FINAL_FORMqALEF_MAKSURA_WITH_SUPERSCRIPT_ALEF_FINAL_FORMqYEH_WITH_RE
    H_FINAL_FORMzZAIN_FINAL_FORMzMEEM_FINAL_FORMzNOON_FINAL_FORMzALEF_MAKSURA_FINAL_FORMzYEH_FINAL
    _FORMzHAMZA_ABOVE_WITH_JEEM_INITIAL_FORMzrHAH_INITIAL_FORMzrKHAH_INITIAL_FORMzrMEEM_INITIAL_FO
    RMzrHEH_INITIAL_FORMqBEH_WITH_JEEM_INITIAL_FORMzHAH_INITIAL_FORMzKHAH_INITIAL_FORMzMEEM_INITIA
    L_FORMzHEH_INITIAL_FORMqTEH_WITH_JEEM_INITIAL_FORMzHAH_INITIAL_FORMzKHAH_INITIAL_FORMzMEEM_INI
    TIAL_FORMzHEH_INITIAL_FORMrHEH_WITH_MEEM_INITIAL_FORMqJEEM_WITH_HAH_INITIAL_FORMzbMEEM_INITIAL
    _FORMqHAH_WITH_JEEM_INITIAL_FORMzMEEM_INITIAL_FORMqKHAH_WITH_JEEM_INITIAL_FORMzbMEEM_INITIAL_F
    ORMqSEEN_WITH_JEEM_INITIAL_FORMzbHAH_INITIAL_FORMzbKHAH_INITIAL_FORMzbMEEM_INITIAL_FORMrAD_WIT
    H_HAH_INITIAL_FORMzKHAH_INITIAL_FORMzMEEM_INITIAL_FORMqDAD_WITH_JEEM_INITIAL_FORMzHAH_INITIAL_
    FORMzKHAH_INITIAL_FORMzMEEM_INITIAL_FORMqTAH_WITH_HAH_INITIAL_FORMqZAH_WITH_MEEM_INITIAL_FORMq
    AIN_WITH_JEEM_INITIAL_FORMzMEEM_INITIAL_FORMqGHAIN_WITH_JEEM_INITIAL_FORMzcMEEM_INITIAL_FORMqF
    EH_WITH_JEEM_INITIAL_FORMzHAH_INITIAL_FORMzKHAH_INITIAL_FORMzMEEM_INITIAL_FORMqQAF_WITH_HAH_IN
    ITIAL_FORMzMEEM_INITIAL_FORMqKAF_WITH_JEEM_INITIAL_FORMzHAH_INITIAL_FORMzKHAH_INITIAL_FORMzLAM
    _INITIAL_FORMzMEEM_INITIAL_FORMqLAM_WITH_JEEM_INITIAL_FORMzHAH_INITIAL_FORMzKHAH_INITIAL_FORMz
    MEEM_INITIAL_FORMzHEH_INITIAL_FORMqMEEM_WITH_JEEM_INITIAL_FORMzbHAH_INITIAL_FORMzbKHAH_INITIAL
    _FORMzbMEEM_INITIAL_FORMqNOON_WITH_JEEM_INITIAL_FORMzbHAH_INITIAL_FORMzbKHAH_INITIAL_FORMzbMEE
    M_INITIAL_FORMzbHEH_INITIAL_FORMqHEH_WITH_JEEM_INITIAL_FORMzMEEM_INITIAL_FORMzSUPERSCRIPT_ALEF
    _INITIAL_FORMqYEH_WITH_JEEM_INITIAL_FORMzHAH_INITIAL_FORMzKHAH_INITIAL_FORMzMEEM_INITIAL_FORMz
    HEH_INITIAL_FORMzbAMZA_ABOVE_WITH_MEEM_MEDIAL_FORMzrHEH_MEDIAL_FORMqBEH_WITH_MEEM_MEDIAL_FORMz
    HEH_MEDIAL_FORMqTEH_WITH_MEEM_MEDIAL_FORMzHEH_MEDIAL_FORMrHEH_WITH_MEEM_MEDIAL_FORMzbHEH_MEDIA
    L_FORMqSEEN_WITH_MEEM_MEDIAL_FORMzbHEH_MEDIAL_FORMrHEEN_WITH_MEEM_MEDIAL_FORMzcHEH_MEDIAL_FORM
    qKAF_WITH_LAM_MEDIAL_FORMzMEEM_MEDIAL_FORMqLAM_WITH_MEEM_MEDIAL_FORMqNOON_WITH_MEEM_MEDIAL_FOR
    MzbHEH_MEDIAL_FORMqYEH_WITH_MEEM_MEDIAL_FORMzHEH_MEDIAL_FORMqSHADDA_WITH_FATHA_MEDIAL_FORMzdDA
    MMA_MEDIAL_FORMzdKASRA_MEDIAL_FORMqTAH_WITH_ALEF_MAKSURA_ISOLATED_FORMzYEH_ISOLATED_FORMqAIN_W
    ITH_ALEF_MAKSURA_ISOLATED_FORMzYEH_ISOLATED_FORMqGHAIN_WITH_ALEF_MAKSURA_ISOLATED_FORMzcYEH_IS
    OLATED_FORMqSEEN_WITH_ALEF_MAKSURA_ISOLATED_FORMzbYEH_ISOLATED_FORMrHEEN_WITH_ALEF_MAKSURA_ISO
    LATED_FORMzcYEH_ISOLATED_FORMqHAH_WITH_ALEF_MAKSURA_ISOLATED_FORMzYEH_ISOLATED_FORMqJEEM_WITH_
    ALEF_MAKSURA_ISOLATED_FORMzbYEH_ISOLATED_FORMqKHAH_WITH_ALEF_MAKSURA_ISOLATED_FORMzbYEH_ISOLAT
    ED_FORMqSAD_WITH_ALEF_MAKSURA_ISOLATED_FORMzYEH_ISOLATED_FORMqDAD_WITH_ALEF_MAKSURA_ISOLATED_F
    ORMzYEH_ISOLATED_FORMqSHEEN_WITH_JEEM_ISOLATED_FORMzcHAH_ISOLATED_FORMzcKHAH_ISOLATED_FORMzcME
    EM_ISOLATED_FORMzcREH_ISOLATED_FORMrEEN_WITH_REH_ISOLATED_FORMrAD_WITH_REH_ISOLATED_FORMqDAD_W
    ITH_REH_ISOLATED_FORMqTAH_WITH_ALEF_MAKSURA_FINAL_FORMzYEH_FINAL_FORMqAIN_WITH_ALEF_MAKSURA_FI
    NAL_FORMzYEH_FINAL_FORMqGHAIN_WITH_ALEF_MAKSURA_FINAL_FORMzcYEH_FINAL_FORMqSEEN_WITH_ALEF_MAKS
    URA_FINAL_FORMzbYEH_FINAL_FORMrHEEN_WITH_ALEF_MAKSURA_FINAL_FORMzcYEH_FINAL_FORMqHAH_WITH_ALEF
    _MAKSURA_FINAL_FORMzYEH_FINAL_FORMqJEEM_WITH_ALEF_MAKSURA_FINAL_FORMzbYEH_FINAL_FORMqKHAH_WITH
    _ALEF_MAKSURA_FINAL_FORMzbYEH_FINAL_FORMqSAD_WITH_ALEF_MAKSURA_FINAL_FORMzYEH_FINAL_FORMqDAD_W
    ITH_ALEF_MAKSURA_FINAL_FORMzYEH_FINAL_FORMqSHEEN_WITH_JEEM_FINAL_FORMzcHAH_FINAL_FORMzcKHAH_FI
    NAL_FORMzcMEEM_FINAL_FORMzcREH_FINAL_FORMrEEN_WITH_REH_FINAL_FORMrAD_WITH_REH_FINAL_FORMqDAD_W
    ITH_REH_FINAL_FORMqSHEEN_WITH_JEEM_INITIAL_FORMzcHAH_INITIAL_FORMzcKHAH_INITIAL_FORMzcMEEM_INI
    TIAL_FORMrEEN_WITH_HEH_INITIAL_FORMrHEEN_WITH_HEH_INITIAL_FORMqTAH_WITH_MEEM_INITIAL_FORMqSEEN
    _WITH_JEEM_MEDIAL_FORMzbHAH_MEDIAL_FORMzbKHAH_MEDIAL_FORMrHEEN_WITH_JEEM_MEDIAL_FORMzcHAH_MEDI
    AL_FORMzcKHAH_MEDIAL_FORMqTAH_WITH_MEEM_MEDIAL_FORMqZAH_WITH_MEEM_MEDIAL_FORMqALEF_WITH_FATHAT
    AN_FINAL_FORMzkISOLATED_FORMaORNATE_LEFT_PARENTHESIShRIGHT_PARENTHESISaARABIC_LIGATURE_RAHIMAH
    U_ALLAAHsDI_ALLAAHU_ANHzhAAzhUMzjAAziNNAqSALLALLAAHU_ALAYHI_WA-AALIHqALAYHI_AS-SALAAMwM_AS-SAL
    AAMxAA_AS-SALAAMw_AS-SALAATU_WAS-SALAAMqQUDDISA_SIRRAHqSALLALLAHU_ALAYHI_WAAALIHEE_WA-SALLAMqA
    LAYHAA_AS-SALAAMqTABAARAKA_WA-TAAALAAqRAHIMAHUM_ALLAAHqTEH_WITH_JEEM_WITH_MEEM_INITIAL_FORMzHA
    H_WITH_JEEM_FINAL_FORMzoINITIAL_FORMzjMEEM_INITIAL_FORMzKHAH_WITH_MEEM_INITIAL_FORMzMEEM_WITH_
    JEEM_INITIAL_FORMzkHAH_INITIAL_FORMzkKHAH_INITIAL_FORMqJEEM_WITH_MEEM_WITH_HAH_FINAL_FORMzpINI
    TIAL_FORMqHAH_WITH_MEEM_WITH_YEH_FINAL_FORMzkALEF_MAKSURA_FINAL_FORMqSEEN_WITH_HAH_WITH_JEEM_I
    NITIAL_FORMzbJEEM_WITH_HAH_INITIAL_FORMzlALEF_MAKSURA_FINAL_FORMzbMEEM_WITH_HAH_FINAL_FORMzpIN
    ITIAL_FORMzlJEEM_INITIAL_FORMzlMEEM_FINAL_FORMzqINITIAL_FORMrAD_WITH_HAH_WITH_HAH_FINAL_FORMzn
    INITIAL_FORMzMEEM_WITH_MEEM_FINAL_FORMrHEEN_WITH_HAH_WITH_MEEM_FINAL_FORMzqINITIAL_FORMzcJEEM_
    WITH_YEH_FINAL_FORMzcMEEM_WITH_KHAH_FINAL_FORMzrINITIAL_FORMzmMEEM_FINAL_FORMzrINITIAL_FORMqDA
    D_WITH_HAH_WITH_ALEF_MAKSURA_FINAL_FORMzKHAH_WITH_MEEM_FINAL_FORMzpINITIAL_FORMqTAH_WITH_MEEM_
    WITH_HAH_FINAL_FORMzoINITIAL_FORMzkMEEM_INITIAL_FORMzkYEH_FINAL_FORMqAIN_WITH_JEEM_WITH_MEEM_F
    INAL_FORMzMEEM_WITH_MEEM_FINAL_FORMzpINITIAL_FORMzkALEF_MAKSURA_FINAL_FORMqGHAIN_WITH_MEEM_WIT
    H_MEEM_FINAL_FORMzmYEH_FINAL_FORMzmALEF_MAKSURA_FINAL_FORMqFEH_WITH_KHAH_WITH_MEEM_FINAL_FORMz
    pINITIAL_FORMqQAF_WITH_MEEM_WITH_HAH_FINAL_FORMzkMEEM_FINAL_FORMqLAM_WITH_HAH_WITH_MEEM_FINAL_
    FORMzjYEH_FINAL_FORMzjALEF_MAKSURA_FINAL_FORMzJEEM_WITH_JEEM_INITIAL_FORMzpFINAL_FORMzKHAH_WIT
    H_MEEM_FINAL_FORMzpINITIAL_FORMzMEEM_WITH_HAH_FINAL_FORMzoINITIAL_FORMqMEEM_WITH_HAH_WITH_JEEM
    _INITIAL_FORMzkMEEM_INITIAL_FORMzkYEH_FINAL_FORMzbJEEM_WITH_HAH_INITIAL_FORMzlMEEM_INITIAL_FOR
    MzbKHAH_WITH_JEEM_INITIAL_FORMzlMEEM_INITIAL_FORM=FD92zbJEEM_WITH_KHAH_INITIAL_FORMqHEH_WITH_M
    EEM_WITH_JEEM_INITIAL_FORMzkMEEM_INITIAL_FORMqNOON_WITH_HAH_WITH_MEEM_INITIAL_FORMzkALEF_MAKSU
    RA_FINAL_FORMzbJEEM_WITH_MEEM_FINAL_FORMzqINITIAL_FORMzlALEF_MAKSURA_FINAL_FORMzbMEEM_WITH_YEH
    _FINAL_FORMzlALEF_MAKSURA_FINAL_FORMqYEH_WITH_MEEM_WITH_MEEM_FINAL_FORMzpINITIAL_FORMqBEH_WITH
    _KHAH_WITH_YEH_FINAL_FORMqTEH_WITH_JEEM_WITH_YEH_FINAL_FORMzkALEF_MAKSURA_FINAL_FORMzKHAH_WITH
    _YEH_FINAL_FORMzkALEF_MAKSURA_FINAL_FORMzMEEM_WITH_YEH_FINAL_FORMzkALEF_MAKSURA_FINAL_FORMqJEE
    M_WITH_MEEM_WITH_YEH_FINAL_FORMzbHAH_WITH_ALEF_MAKSURA_FINAL_FORMzbMEEM_WITH_ALEF_MAKSURA_FINA
    L_FORMqSEEN_WITH_KHAH_WITH_ALEF_MAKSURA_FINAL_FORMrAD_WITH_HAH_WITH_YEH_FINAL_FORMrHEEN_WITH_H
    AH_WITH_YEH_FINAL_FORMqDAD_WITH_HAH_WITH_YEH_FINAL_FORMqLAM_WITH_JEEM_WITH_YEH_FINAL_FORMzMEEM
    _WITH_YEH_FINAL_FORMqYEH_WITH_HAH_WITH_YEH_FINAL_FORMzJEEM_WITH_YEH_FINAL_FORMzMEEM_WITH_YEH_F
    INAL_FORMqMEEM_WITH_MEEM_WITH_YEH_FINAL_FORMqQAF_WITH_MEEM_WITH_YEH_FINAL_FORMqNOON_WITH_HAH_W
    ITH_YEH_FINAL_FORMqQAF_WITH_MEEM_WITH_HAH_INITIAL_FORMqLAM_WITH_HAH_WITH_MEEM_INITIAL_FORMqAIN
    _WITH_MEEM_WITH_YEH_FINAL_FORMqKAF_WITH_MEEM_WITH_YEH_FINAL_FORMqNOON_WITH_JEEM_WITH_HAH_INITI
    AL_FORMqMEEM_WITH_KHAH_WITH_YEH_FINAL_FORMqLAM_WITH_JEEM_WITH_MEEM_INITIAL_FORMqKAF_WITH_MEEM_
    WITH_MEEM_FINAL_FORMqLAM_WITH_JEEM_WITH_MEEM_FINAL_FORMqNOON_WITH_JEEM_WITH_HAH_FINAL_FORMqJEE
    M_WITH_HAH_WITH_YEH_FINAL_FORMqHAH_WITH_JEEM_WITH_YEH_FINAL_FORMqMEEM_WITH_JEEM_WITH_YEH_FINAL
    _FORMqFEH_WITH_MEEM_WITH_YEH_FINAL_FORMqBEH_WITH_HAH_WITH_YEH_FINAL_FORMqKAF_WITH_MEEM_WITH_ME
    EM_INITIAL_FORMqAIN_WITH_JEEM_WITH_MEEM_INITIAL_FORMqSAD_WITH_MEEM_WITH_MEEM_INITIAL_FORMrEEN_
    WITH_KHAH_WITH_YEH_FINAL_FORMqNOON_WITH_JEEM_WITH_YEH_FINAL_FORM=FDCFqSALAAMUHU_ALAYNAA=FDF0tL
    A_USED_AS_KORANIC_STOP_SIGN_ISOLATED_FORMqQALA_USED_AS_KORANIC_STOP_SIGN_ISOLATED_FORMqALLAH_I
    SOLATED_FORMrKBAR_ISOLATED_FORMqMOHAMMAD_ISOLATED_FORMqSALAM_ISOLATED_FORMqRASOUL_ISOLATED_FOR
    MqALAYHE_ISOLATED_FORMqWASALLAM_ISOLATED_FORMqSALLA_ISOLATED_FORMvLLAHOU_ALAYHE_WASALLAMqJALLA
    JALALOUHOUaRIAL_SIGNaARABIC_LIGATURE_BISMILLAH_AR-RAHMAN_AR-RAHEEMqSUBHAANAHU_WA_TAAALAAqAZZA_
    WA_JALLaVARIATION_SELECTOR-1t2t3t4t5t6t7t8t9t10u1u2u3u4u5u6aPRESENTATION_FORM_FOR_VERTICAL_COM
    MAzgIDEOGRAPHIC_COMMAzsFULL_STOPzgCOLONzgSEMICOLONzgEXCLAMATION_MARKzgQUESTION_MARKzgLEFT_WHIT
    E_LENTICULAR_BRACKETzgRIGHT_WHITE_LENTICULAR_BRAKCETzgHORIZONTAL_ELLIPSIS=FE20aCOMBINING_LIGAT
    URE_LEFT_HALFtRIGHT_HALFkDOUBLE_TILDE_LEFT_HALFxRIGHT_HALFkMACRON_LEFT_HALFrRIGHT_HALFkCONJOIN
    ING_MACRONkLIGATURE_LEFT_HALF_BELOWtRIGHT_HALF_BELOWkTILDE_LEFT_HALF_BELOWqRIGHT_HALF_BELOWkMA
    CRON_LEFT_HALF_BELOWrRIGHT_HALF_BELOWkCONJOINING_MACRON_BELOWlYRILLIC_TITLO_LEFT_HALFzRIGHT_HA
    LFaPRESENTATION_FORM_FOR_VERTICAL_TWO_DOT_LEADERzgEM_DASHzhN_DASHzgLOW_LINEzgWAVY_LOW_LINEzgLE
    FT_PARENTHESISzgRIGHT_PARENTHESISzgLEFT_CURLY_BRACKETzgRIGHT_CURLY_BRACKETzgLEFT_TORTOISE_SHEL
    L_BRACKETzgRIGHT_TORTOISE_SHELL_BRACKETzgLEFT_BLACK_LENTICULAR_BRACKETzgRIGHT_BLACK_LENTICULAR
    _BRACKETzgLEFT_DOUBLE_ANGLE_BRACKETzgRIGHT_DOUBLE_ANGLE_BRACKETzgLEFT_ANGLE_BRACKETzgRIGHT_ANG
    LE_BRACKETzgLEFT_CORNER_BRACKETzgRIGHT_CORNER_BRACKETzgLEFT_WHITE_CORNER_BRACKETzgRIGHT_WHITE_
    CORNER_BRACKETaSESAME_DOTaWHITE_SESAME_DOTaPRESENTATION_FORM_FOR_VERTICAL_LEFT_SQUARE_BRACKETz
    gRIGHT_SQUARE_BRACKETaDASHED_OVERLINEaCENTRELINE_OVERLINEaWAVY_OVERLINEaDOUBLE_WAVY_OVERLINEbA
    SHED_LOW_LINEaCENTRELINE_LOW_LINEaWAVY_LOW_LINEaSMALL_COMMAgIDEOGRAPHIC_COMMAgFULL_STOP=FE54gS
    EMICOLONgCOLONgQUESTION_MARKgEXCLAMATION_MARKhM_DASHgLEFT_PARENTHESISgRIGHT_PARENTHESISgLEFT_C
    URLY_BRACKETgRIGHT_CURLY_BRACKETgLEFT_TORTOISE_SHELL_BRACKETgRIGHT_TORTOISE_SHELL_BRACKETgNUMB
    ER_SIGNgAMPERSANDhSTERISKgPLUS_SIGNgHYPHEN-MINUSgLESS-THAN_SIGNgGREATER-THAN_SIGNgEQUALS_SIGN=
    FE68gREVERSE_SOLIDUSgDOLLAR_SIGNgPERCENT_SIGNgCOMMERCIAL_AT=FE70aARABIC_FATHATAN_ISOLATED_FORM
    hTATWEEL_WITH_FATHATAN_ABOVEhDAMMATAN_ISOLATED_FORMhTAIL_FRAGMENThKASRATAN_ISOLATED_FORM=FE76h
    FATHA_ISOLATED_FORMnMEDIAL_FORMhDAMMA_ISOLATED_FORMnMEDIAL_FORMhKASRA_ISOLATED_FORMnMEDIAL_FOR
    MhSHADDA_ISOLATED_FORMoMEDIAL_FORMiUKUN_ISOLATED_FORMnMEDIAL_FORMhLETTER_HAMZA_ISOLATED_FORMoA
    LEF_WITH_MADDA_ABOVE_ISOLATED_FORMzlFINAL_FORMyHAMZA_ABOVE_ISOLATED_FORMzlFINAL_FORMoWAW_WITH_
    HAMZA_ABOVE_ISOLATED_FORMzkFINAL_FORMoALEF_WITH_HAMZA_BELOW_ISOLATED_FORMzlFINAL_FORMoYEH_WITH
    _HAMZA_ABOVE_ISOLATED_FORMzkFINAL_FORMzkINITIAL_FORMzkMEDIAL_FORMoALEF_ISOLATED_FORMtFINAL_FOR
    MoBEH_ISOLATED_FORMsFINAL_FORMsINITIAL_FORMsMEDIAL_FORMoTEH_MARBUTA_ISOLATED_FORMzbFINAL_FORMs
    ISOLATED_FORMsFINAL_FORMsINITIAL_FORMsMEDIAL_FORMpHEH_ISOLATED_FORMtFINAL_FORMtINITIAL_FORMtME
    DIAL_FORMoJEEM_ISOLATED_FORMtFINAL_FORMtINITIAL_FORMtMEDIAL_FORMoHAH_ISOLATED_FORMsFINAL_FORMs
    INITIAL_FORMsMEDIAL_FORMoKHAH_ISOLATED_FORMtFINAL_FORMtINITIAL_FORMtMEDIAL_FORMoDAL_ISOLATED_F
    ORMsFINAL_FORMoTHAL_ISOLATED_FORMtFINAL_FORMoREH_ISOLATED_FORMsFINAL_FORMoZAIN_ISOLATED_FORMtF
    INAL_FORMoSEEN_ISOLATED_FORMtFINAL_FORMtINITIAL_FORMtMEDIAL_FORMpHEEN_ISOLATED_FORMuFINAL_FORM
    uINITIAL_FORMuMEDIAL_FORMpAD_ISOLATED_FORMsFINAL_FORMsINITIAL_FORMsMEDIAL_FORMoDAD_ISOLATED_FO
    RMsFINAL_FORMsINITIAL_FORMsMEDIAL_FORMoTAH_ISOLATED_FORMsFINAL_FORMsINITIAL_FORMsMEDIAL_FORMoZ
    AH_ISOLATED_FORMsFINAL_FORMsINITIAL_FORMsMEDIAL_FORMoAIN_ISOLATED_FORMsFINAL_FORMsINITIAL_FORM
    sMEDIAL_FORMoGHAIN_ISOLATED_FORMuFINAL_FORMuINITIAL_FORMuMEDIAL_FORMoFEH_ISOLATED_FORMsFINAL_F
    ORMsINITIAL_FORMsMEDIAL_FORMoQAF_ISOLATED_FORMsFINAL_FORMsINITIAL_FORMsMEDIAL_FORMoKAF_ISOLATE
    D_FORMsFINAL_FORMsINITIAL_FORMsMEDIAL_FORMoLAM_ISOLATED_FORMsFINAL_FORMsINITIAL_FORMsMEDIAL_FO
    RMoMEEM_ISOLATED_FORMtFINAL_FORMtINITIAL_FORMtMEDIAL_FORMoNOON_ISOLATED_FORMtFINAL_FORMtINITIA
    L_FORMtMEDIAL_FORMoHEH_ISOLATED_FORMsFINAL_FORMsINITIAL_FORMsMEDIAL_FORMoWAW_ISOLATED_FORMsFIN
    AL_FORMoALEF_MAKSURA_ISOLATED_FORMzcFINAL_FORMoYEH_ISOLATED_FORMsFINAL_FORMsINITIAL_FORMsMEDIA
    L_FORMiIGATURE_LAM_WITH_ALEF_WITH_MADDA_ABOVE_ISOLATED_FORMzwFINAL_FORMzkHAMZA_ABOVE_ISOLATED_
    FORMzwFINAL_FORMzqBELOW_ISOLATED_FORMzwFINAL_FORMzfISOLATED_FORMzfFINAL_FORM=FEFFaZERO_WIDTH_N
    O-BREAK_SPACE=FF01aFULLWIDTH_EXCLAMATION_MARKkQUOTATION_MARKkNUMBER_SIGNkDOLLAR_SIGNkPERCENT_S
    IGNkAMPERSANDlPOSTROPHEkLEFT_PARENTHESISkRIGHT_PARENTHESISkASTERISKkPLUS_SIGNkCOMMAkHYPHEN-MIN
    USkFULL_STOPkSOLIDUSkDIGIT_ZEROqONEqTWOrHREEqFOURrIVEqSIXrEVENqEIGHTqNINEkCOLONkSEMICOLONkLESS
    -THAN_SIGNkEQUALS_SIGNkGREATER-THAN_SIGNkQUESTION_MARKkCOMMERCIAL_ATkLATIN_CAPITAL_LETTER_AzgB
    zgCzgDzgEzgFzgGzgHzgIzgJzgKzgLzgMzgNzgOzgPzgQzgRzgSzgTzgUzgVzgWzgXzgYzgZlEFT_SQUARE_BRACKETkRE
    VERSE_SOLIDUSlIGHT_SQUARE_BRACKETkCIRCUMFLEX_ACCENTkLOW_LINEkGRAVE_ACCENTkLATIN_SMALL_LETTER_A
    zeBzeCzeDzeEzeFzeGzeHzeIzeJzeKzeLzeMzeNzeOzePzeQzeRzeSzeTzeUzeVzeWzeXzeYzeZlEFT_CURLY_BRACKETk
    VERTICAL_LINEkRIGHT_CURLY_BRACKETkTILDEkLEFT_WHITE_PARENTHESISkRIGHT_WHITE_PARENTHESISaHALFWID
    TH_IDEOGRAPHIC_FULL_STOPkLEFT_CORNER_BRACKETkRIGHT_CORNER_BRACKETkIDEOGRAPHIC_COMMAkKATAKANA_M
    IDDLE_DOTtLETTER_WOzbSMALL_AzhIzhUzhEzhOzhYAziUziOzhTUs-HIRAGANA_PROLONGED_SOUND_MARKs_LETTER_
    AzbIzbUzbEzbOzbKAzcIzcUzcEzcOzbSAzcIzcUzcEzcOzbTAzcIzcUzcEzcOzbNAzcIzcUzcEzcOzbHAzcIzcUzcEzcOz
    bMAzcIzcUzcEzcOzbYAzcUzcOzbRAzcIzcUzcEzcOzbWAzbNtVOICED_SOUND_MARKtSEMI-VOICED_SOUND_MARKkHANG
    UL_FILLERrLETTER_KIYEOKySSANGKIYEOKyKIYEOK-SIOSyNIEUNze-CIEUCzfHIEUHyTIKEUTySSANGTIKEUTyRIEULz
    e-KIYEOKzfMIEUMzfPIEUPzfSIOSzfTHIEUTHzfPHIEUPHzfHIEUHyMIEUMyPIEUPySSANGPIEUPyPIEUP-SIOSySIOSzS
    ANGSIOSyIEUNGyCIEUCySSANGCIEUCyCHIEUCHyKHIEUKHyTHIEUTHyPHIEUPHyHIEUH=FFC2yAzEyYAzbEyEOyE=FFCAy
    YEOzEyOyWAzbEyOE=FFD2yYOyUyWEOzEzIyYU=FFDAyEUyYIyI=FFE0aFULLWIDTH_CENT_SIGNkPOUND_SIGNkNOT_SIG
    NkMACRONkBROKEN_BARkYEN_SIGNkWON_SIGN=FFE8aHALFWIDTH_FORMS_LIGHT_VERTICALkLEFTWARDS_ARROWkUPWA
    RDS_ARROWkRIGHTWARDS_ARROWkDOWNWARDS_ARROWkBLACK_SQUAREkWHITE_CIRCLE=FFF9aINTERLINEAR_ANNOTATI
    ON_ANCHORxSEPARATORxTERMINATORaOBJECT_REPLACEMENT_CHARACTERaREPLACEMENT_CHARACTER"

end Assay.Text
